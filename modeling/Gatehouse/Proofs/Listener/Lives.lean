import Gatehouse.Proofs.Listener.Aftermath

/- Lives of a listener: calls on it one after another, and what the serving does of itself between them. A listener
   whose serving has ended of itself between two calls still holds the closed socket; a stop gives that back, and so does
   any start that gets to bind, but a start that cannot bind leaves it. -/
namespace Gatehouse.Listener

-- A call, with all that it depends on.
inductive Visit where
  | start (bound : Except String Address) (startup : Startup)
  | stop (shutdown : Shutdown)
  | run (mainThread : Bool) (bound : Except String Address) (startup : Startup) (wake : Wake) (shutdown : Shutdown)

inductive Occasion where
  | calls (visit : Visit)
  | readies
  | ends (ending : Ending)

def Visit.turn : Visit → Listener → Turn
  | .start bound startup, listener => listener.start bound startup
  | .stop shutdown, listener => listener.stopBy shutdown
  | .run mainThread bound startup wake shutdown, listener => listener.runBy mainThread bound startup wake shutdown

def Occasion.left : Occasion → Listener → Listener
  | .calls visit, listener => (visit.turn listener).listener
  | .readies, listener => listener.becomeReady
  | .ends ending, listener => listener.endServing ending

def lived (life : List Occasion) (listener : Listener) : Listener :=
  life.foldl (fun listener occasion => occasion.left listener) listener

/-- A call has ended before the next begins, so no handler of a run is left. -/
structure Settled (listener : Listener) : Prop where
  between : Between listener
  unhandled : listener.handlers = []

/-- The listener does not run, nothing is left of a run, and it can be started again. -/
structure Down (listener : Listener) : Prop where
  down : listener.running = false
  unready : listener.ready = false
  unopened : ∀ socket, listener.socket = some socket → socket.isOpen = false
  unhandled : listener.handlers = []
  accepted : ∀ bound startup, (listener.start bound startup).outcome.rejects = false
  restarts : ∀ address, (listener.start (.ok address) .ready).outcome = .returned

/-- Nothing is left of what the listener held. -/
structure Closed (listener : Listener) : Prop extends Down listener where
  unaddressed : listener.address = none
  unbound : listener.socket = none

/-- The listener still holds a socket that has been closed: its address is asked for, and cannot be told. -/
structure Stale (listener : Listener) : Prop extends Down listener where
  untold : listener.address = some none

/-- What the next call on a listener does. What a call leaves depends on whether the serving has ended of itself since
    the last one, and on whether the call gets to bind. -/
structure Lawful (listener : Listener) : Prop where
  start_rejects : ∀ bound startup, (listener.start bound startup).outcome.rejects = listener.running
  run_rejects : ∀ mainThread bound startup wake shutdown,
    (listener.runBy mainThread bound startup wake shutdown).outcome.rejects =
      (listener.running || (shutsDown bound startup wake && shutdown.isRuntimeError))
  started : ∀ bound startup, (listener.start bound startup).outcome = .returned →
    (listener.start bound startup).listener.running = true ∧ (listener.start bound startup).listener.ready = true ∧
      ∃ address, bound = .ok address ∧ (listener.start bound startup).listener.socket = some ⟨address, true⟩
  failed : ∀ bound startup text, listener.Unended ∨ (∃ address, bound = .ok address) →
    (listener.start bound startup).outcome = .raised (.listener text) → Closed (listener.start bound startup).listener
  ran : ∀ mainThread bound startup wake shutdown, listener.Unended ∨ (∃ address, bound = .ok address) →
    listener.running = false → Closed (listener.runBy mainThread bound startup wake shutdown).listener
  stale_start : ¬ listener.Unended → ∀ reason startup,
    (listener.start (.error reason) startup).outcome = .raised (bindError listener.setup reason) ∧
      Stale (listener.start (.error reason) startup).listener
  stale_run : ¬ listener.Unended → ∀ mainThread reason startup wake shutdown,
    (listener.runBy mainThread (.error reason) startup wake shutdown).outcome =
        .raised (bindError listener.setup reason) ∧
      Stale (listener.runBy mainThread (.error reason) startup wake shutdown).listener
  stops : ∀ shutdown, Closed (listener.stopBy shutdown).listener
  resting : listener.running = false → listener.Unended → ∀ shutdown,
    listener.stopBy shutdown = ⟨[], .returned, listener⟩
  lapsed : ¬ listener.Unended → ∀ shutdown, listener.stopBy shutdown = ⟨[], .returned, listener.release⟩

/- What a life preserves -/

section

variable (listener : Listener)

theorem start_handlers (bound : Except String Address) (startup : Startup) :
    (listener.start bound startup).listener.handlers = listener.handlers := by
  cases going : listener.running with
  | true => rw [start_refused listener going]
  | false =>
    cases start_cases listener bound startup going with
    | unbound reason engine failed same => rw [same]
    | begun address engine opened outcome left => exact left ▸ rfl
    | ended address ending opened outcome left => exact left ▸ rfl

theorem readies_between (between : Between listener) : Between listener.becomeReady :=
  changed_between listener _ between rfl rfl fun ⟨engine, built⟩ =>
    ⟨{ engine with ready := true }, by simp [becomeReady, built]⟩

theorem visit_settled (visit : Visit) (settled : Settled listener) : Settled (visit.turn listener).listener := by
  obtain ⟨between, unhandled⟩ := settled
  cases visit with
  | start bound startup =>
    exact ⟨start_between listener bound startup between, (start_handlers listener bound startup).trans unhandled⟩
  | stop shutdown =>
    exact ⟨stopBy_between listener shutdown between, (stopBy_back listener shutdown between).handlers.trans unhandled⟩
  | run mainThread bound startup wake shutdown =>
    exact ⟨runBy_between listener mainThread bound startup wake shutdown between,
      runBy_handlers listener mainThread bound startup wake shutdown unhandled⟩

theorem occasion_settled (occasion : Occasion) (settled : Settled listener) : Settled (occasion.left listener) := by
  cases occasion with
  | calls visit => exact visit_settled listener visit settled
  | readies => exact ⟨readies_between listener settled.between, settled.unhandled⟩
  | ends ending =>
    exact ⟨endServing_between listener ending settled.between,
      (endServing_handlers listener ending).trans settled.unhandled⟩

theorem lived_settled (life : List Occasion) (settled : Settled listener) : Settled (lived life listener) := by
  induction life generalizing listener with
  | nil => exact settled
  | cons occasion rest ih => exact ih _ (occasion_settled listener occasion settled)

theorem visit_unended (visit : Visit) (between : Between listener) (unended : listener.Unended) :
    (visit.turn listener).listener.Unended := by
  cases visit with
  | start bound startup =>
    cases going : listener.running with
    | true => rwa [Visit.turn, start_refused listener going]
    | false =>
      cases start_cases listener bound startup going with
      | unbound reason engine failed same =>
        rw [Visit.turn, same]
        exact unended
      | begun address engine opened outcome left => exact left ▸ nofun
      | ended address ending opened outcome left => exact left ▸ nofun
  | stop shutdown => simp [Visit.turn, Unended, (stopBy_back listener shutdown between).unserved]
  | run mainThread bound startup wake shutdown =>
    cases going : listener.running with
    | true =>
      rw [Visit.turn, runBy_refused listener mainThread bound startup wake shutdown going]
      cases mainThread <;> exact unended
    | false =>
      simp [Visit.turn, Unended,
        (runBy_frees listener mainThread bound startup wake shutdown between going (.inl unended)).1]

theorem readies_unended (unended : listener.Unended) : listener.becomeReady.Unended := unended

-- Only what the serving does of itself can end what the calls have begun to serve.
theorem lived_unended (life : List Occasion) (settled : Settled listener) (unended : listener.Unended)
    (kept : ∀ ending, .ends ending ∉ life) : (lived life listener).Unended := by
  induction life generalizing listener with
  | nil => exact unended
  | cons occasion rest ih =>
    have others (ending : Ending) (later : Occasion.ends ending ∈ rest) : False :=
      kept ending (List.mem_cons_of_mem _ later)
    refine ih _ (occasion_settled listener occasion settled) ?_ others
    cases occasion with
    | calls visit => exact visit_unended listener visit settled.between unended
    | readies => exact readies_unended listener unended
    | ends ending => exact absurd List.mem_cons_self (kept ending)

end

/- What the next call does -/

section

variable (listener : Listener) (settled : Settled listener)

theorem unserved_down (down : listener.running = false)
    (unopened : ∀ socket, listener.socket = some socket → socket.isOpen = false) (unhandled : listener.handlers = []) :
    Down listener := by
  refine ⟨down, by simp [ready, down], unopened, unhandled, fun bound startup => ?_, fun address => ?_⟩
  · exact (start_rejects listener bound startup).trans down
  · rw [start_bound listener .ready address down]
    rfl

theorem free_closed (unserved : listener.serving = none) (unbound : listener.socket = none)
    (unhandled : listener.handlers = []) : Closed listener :=
  ⟨unserved_down listener (by simp [running, unserved]) (by simp [unbound]) unhandled, by simp [address, unbound],
    unbound⟩

theorem lapsed_stale (ending : Ending) (address : Address) (lapsed : listener.serving = some (.ended ending))
    (closed : listener.socket = some ⟨address, false⟩) (unhandled : listener.handlers = []) : Stale listener := by
  refine ⟨unserved_down listener (by simp [running, lapsed]) (fun socket held => ?_) unhandled,
    by simp [Listener.address, closed]⟩
  rw [Option.some.inj (held.symm.trans closed)]

-- A listener whose serving has ended of itself.
theorem ended_lapsed (between : Between listener) (ended : ¬ listener.Unended) :
    ∃ engine ending address, listener.engine = some engine ∧ listener.serving = some (.ended ending) ∧
      listener.socket = some ⟨address, false⟩ := by
  cases between with
  | free unserved unbound => exact absurd (fun ending => by simp [unserved]) ended
  | going engine address built serving => exact absurd (fun ending => by simp [serving]) ended
  | lapsed engine ending address built serving closed => exact ⟨engine, ending, address, built, serving, closed⟩

theorem start_serves (bound : Except String Address) (startup : Startup)
    (returned : (listener.start bound startup).outcome = .returned) :
    (listener.start bound startup).listener.running = true ∧ (listener.start bound startup).listener.ready = true ∧
      ∃ address, bound = .ok address ∧ (listener.start bound startup).listener.socket = some ⟨address, true⟩ := by
  cases going : listener.running with
  | true =>
    rw [start_refused listener going] at returned
    cases returned
  | false =>
    cases start_cases listener bound startup going with
    | unbound reason engine failed same =>
      rw [same] at returned
      cases returned
    | begun address engine opened outcome left =>
      rcases outcome with ⟨_, ready⟩ | cancelled
      · rw [left]
        exact ⟨rfl, ready, address, opened, rfl⟩
      · rw [cancelled] at returned
        cases returned
    | ended address ending opened outcome left =>
      rw [outcome] at returned
      cases returned

include settled

theorem start_closes (bound : Except String Address) (startup : Startup) (text : String)
    (given : listener.Unended ∨ ∃ address, bound = .ok address)
    (failed : (listener.start bound startup).outcome = .raised (.listener text)) :
    Closed (listener.start bound startup).listener := by
  have unhandled := (start_handlers listener bound startup).trans settled.unhandled
  cases going : listener.running with
  | true =>
    rw [start_refused listener going] at failed
    cases failed
  | false =>
    cases start_cases listener bound startup going with
    | unbound reason engine error same =>
      have free := down_free listener settled.between going (given.resolve_right (by simp [error]))
      rw [same] at unhandled ⊢
      exact free_closed _ free.1 free.2 unhandled
    | begun address engine opened outcome left =>
      rcases outcome with ⟨returned, _⟩ | cancelled
      · rw [returned] at failed
        cases failed
      · rw [cancelled] at failed
        cases failed
    | ended address ending opened outcome left =>
      rw [left] at unhandled ⊢
      exact free_closed _ rfl rfl unhandled

theorem stopBy_closes (shutdown : Shutdown) : Closed (listener.stopBy shutdown).listener := by
  have back := stopBy_back listener shutdown settled.between
  exact free_closed _ back.unserved back.unbound (back.handlers.trans settled.unhandled)

theorem runBy_closes (mainThread : Bool) (bound : Except String Address) (startup : Startup) (wake : Wake)
    (shutdown : Shutdown) (given : listener.Unended ∨ ∃ address, bound = .ok address)
    (down : listener.running = false) :
    Closed (listener.runBy mainThread bound startup wake shutdown).listener := by
  have frees := runBy_frees listener mainThread bound startup wake shutdown settled.between down given
  exact free_closed _ frees.1 frees.2
    (runBy_handlers listener mainThread bound startup wake shutdown settled.unhandled)

/- A call that cannot bind does not give back what a serving has left that ended of itself. -/

variable (ended : ¬ listener.Unended) (reason : String) (startup : Startup)

include ended

theorem start_stale :
    (listener.start (.error reason) startup).outcome = .raised (bindError listener.setup reason) ∧
      Stale (listener.start (.error reason) startup).listener := by
  obtain ⟨_, ending, address, _, lapsed, closed⟩ := ended_lapsed listener settled.between ended
  have down : listener.running = false := by simp [running, lapsed]
  cases start_cases listener (.error reason) startup down with
  | unbound text engine failed same =>
    cases failed
    rw [same]
    exact ⟨rfl, lapsed_stale _ ending address lapsed closed settled.unhandled⟩
  | begun | ended => contradiction

theorem runBy_stale (mainThread : Bool) (wake : Wake) (shutdown : Shutdown) :
    (listener.runBy mainThread (.error reason) startup wake shutdown).outcome =
        .raised (bindError listener.setup reason) ∧
      Stale (listener.runBy mainThread (.error reason) startup wake shutdown).listener := by
  obtain ⟨_, ending, address, _, lapsed, closed⟩ := ended_lapsed listener settled.between ended
  have unhandled := runBy_handlers listener mainThread (.error reason) startup wake shutdown settled.unhandled
  have taken : (listener.takeSignals mainThread).2.running = false := by
    rw [takeSignals_running]
    simp [running, lapsed]
  obtain ⟨engine, same⟩ := serveBy_unbound _ startup wake shutdown taken reason
  simp only [runBy, same] at unhandled ⊢
  cases mainThread <;> exact ⟨rfl, lapsed_stale _ ending address lapsed closed unhandled⟩

omit ended reason startup

theorem settled_lawful : Lawful listener where
  start_rejects := start_rejects listener
  run_rejects := runBy_rejects listener
  started := start_serves listener
  failed bound startup text given failed := start_closes listener settled bound startup text given failed
  ran mainThread bound startup wake shutdown given down :=
    runBy_closes listener settled mainThread bound startup wake shutdown given down
  stale_start ended reason startup := start_stale listener settled ended reason startup
  stale_run ended mainThread reason startup wake shutdown :=
    runBy_stale listener settled ended reason startup mainThread wake shutdown
  stops := stopBy_closes listener settled
  resting down unended shutdown :=
    stopBy_free listener shutdown (down_free listener settled.between down unended).1
  lapsed ended shutdown := by
    obtain ⟨engine, ending, _, built, lapsed, _⟩ := ended_lapsed listener settled.between ended
    exact stopBy_lapsed listener shutdown engine ending built lapsed

end

section

variable (setup : Setup)

theorem idle_settled : Settled (idle setup) := ⟨.free rfl rfl, rfl⟩

def lapsedLife : List Occasion := [.calls (.start (.ok loopback) .ready), .ends .finished]

end

end Gatehouse.Listener
