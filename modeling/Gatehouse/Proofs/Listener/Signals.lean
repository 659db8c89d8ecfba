import Gatehouse.Proofs.Listener.Further

/- Whom the signals reach while further calls are refused. The run that keeps the listener running has them from its
   beginning to its end, unless a further run takes them over. -/
namespace Gatehouse.Listener

def Call.underway (call : Call) : Bool := call.found.isSome

-- The signals stay with whom they are while the run goes on, and are given back when it is over.
inductive Moves (mainThread : Bool) (before after : System) : Prop where
  | goes (handlers : after.listener.handlers = before.listener.handlers)
    (fresh : after.run = .fresh → before.run = .fresh) (underway : after.run.underway = before.run.underway)
  | ends (outcome : Outcome) (done : after.run = .done outcome)
    (handlers : after.listener.handlers = (before.listener.leaveSignals mainThread).handlers)

section

variable (mainThread : Bool) (before : System) (told : Journal) (caller : Caller)

theorem set_moves (change : Engine → Engine) (halt : Halt) (was : caller = .run → before.run.underway = true) :
    Moves mainThread before ((before.tell told
      { before.listener with engine := before.listener.engine.map change }).set caller (.stopping halt)) := by
  cases caller with
  | run => exact .goes rfl nofun (was rfl).symm
  | stop => exact .goes rfl id rfl

theorem closed_moves (outcome : Outcome) :
    Moves mainThread before ((before.tell told before.listener.release).close mainThread caller outcome) := by
  cases caller with
  | run => exact .ends outcome rfl (by cases mainThread <;> rfl)
  | stop => exact .goes rfl id rfl

theorem halt_moves (held : Held before.listener before.ended) (was : caller = .run → before.run.underway = true) :
    Moves mainThread before (before.beginHalt mainThread caller) := by
  rcases beginHalt_cases mainThread before caller held with ⟨_, told, halted⟩ | ⟨_, halted⟩
  · rw [halted]
    exact set_moves mainThread before told caller Engine.ask .waiting was
  · rw [halted]
    exact closed_moves mainThread before [] caller .returned

theorem moved_alike (other after : System) (listener : before.listener = other.listener)
    (run : before.run = other.run) (moves : Moves mainThread before after) : Moves mainThread other after := by
  cases moves with
  | goes handlers fresh underway => exact .goes (listener ▸ handlers) (run ▸ fresh) (run ▸ underway)
  | ends outcome done handlers => exact .ends outcome done (listener ▸ handlers)

theorem begun_moves (bound : Except String Address) (after : System) (begun : Begun before)
    (step : Step mainThread bound before after) : Moves mainThread before after := by
  have underway (call : Call) (run : before.run = call) (going : call.underway = true) :
      before.run.underway = true := run ▸ going
  cases step with
  | runBegins fresh =>
    have run := begun.run
    rw [fresh] at run
    cases run
  | runPolls starting =>
    rcases pollRun_cases mainThread before begun.held with ⟨engine, told, _, _, polled⟩ | ⟨_, refusal, _, polled⟩
    · rw [polled]
      have was := underway _ starting rfl
      cases engine.ready with
      | false => exact .goes rfl id rfl
      | true => exact .goes rfl nofun was.symm
    · rw [polled]
      exact closed_moves mainThread before [] .run _
  | runWakes serving woken =>
    rcases wakeRun_cases mainThread before begun.held with ⟨told, woke⟩ | ⟨_, told, refusal, _, woke⟩
    · rw [woke]
      exact moved_alike mainThread (before.tell told before.listener) before _ rfl rfl
        (halt_moves mainThread _ .run begun.held fun _ => underway _ serving rfl)
    · rw [woke]
      exact closed_moves mainThread before told .run _
  | stopBegins fresh =>
    exact moved_alike mainThread { before with found := before.run.found } before _ rfl rfl
      (halt_moves mainThread _ .stop begun.held nofun)
  | runsLate caller waiting going =>
    cases caller with
    | run => exact .goes rfl nofun (underway _ waiting rfl).symm
    | stop => exact .goes rfl id rfl
  | forces caller late =>
    rcases forceHalt_cases mainThread before caller with ⟨told, forced⟩ | ⟨_, told, forced⟩
    · rw [forced]
      exact set_moves mainThread before told caller Engine.force .forced fun same => underway _ (same ▸ late) rfl
    · rw [forced]
      exact closed_moves mainThread before told caller _
  | halts caller halt ending stopping awaits ended =>
    obtain ⟨told, outcome, finished, _⟩ := finishHalt_released mainThread before caller halt ending
    rw [finished]
    exact closed_moves mainThread before told caller outcome
  | becomesReady going => exact .goes rfl id rfl
  | leaves engine going held asked => exact .goes (endServing_handlers _ _) id rfl
  | fails ending going => exact .goes (endServing_handlers _ _) id rfl
  | signals signal taken => exact .goes rfl id rfl
  | asks => exact .goes rfl id rfl

/-- The signals are taken for a run that is underway, unless a further run has taken them over since. -/
structure Heeds (mainThread : Bool) (calls : List Further) (system : System) : Prop where
  fresh : system.run = .fresh → calls = []
  taken : system.listener.handlers.map Prod.fst =
    if system.run.underway && mainThread && !calls.any Further.takes then Signal.all else []

variable (bound : Except String Address) (calls : List Further) (after : System)

theorem moved_heeds (heeds : Heeds mainThread calls before) (moves : Moves mainThread before after) :
    Heeds mainThread calls after := by
  obtain ⟨fresh, taken⟩ := heeds
  cases moves with
  | goes handlers begun underway => exact ⟨fun same => fresh (begun same), by rw [handlers, underway, taken]⟩
  | ends outcome done handlers =>
    refine ⟨fun same => ?_, ?_⟩
    · rw [done] at same
      exact nomatch same
    rw [handlers, done]
    cases mainThread with
    | false => simpa [leaveSignals] using taken
    | true => rfl

theorem stopBegin_handlers (listener : Listener) : listener.stopBegin.2.2.handlers = listener.handlers := by
  unfold stopBegin
  split <;> rfl

theorem resting_heeds (resting : Resting before) (heeds : Heeds mainThread calls before)
    (step : Step mainThread bound before after) : Heeds mainThread calls after := by
  obtain ⟨fresh, taken⟩ := heeds
  cases step with
  | runBegins begins =>
    have unhandled : before.listener.handlers = [] := by simpa [begins, Call.underway, Call.found] using taken
    have down : (before.listener.takeSignals mainThread).2.running = false :=
      (takeSignals_running mainThread before.listener).trans resting.down
    rw [fresh begins]
    cases bound with
    | error reason =>
      simp only [System.beginRun, startBegin, down, Bool.false_eq_true, if_false]
      refine ⟨(by cases ·), ?_⟩
      cases mainThread <;> simp [System.tell, System.close, leaveSignals, takeSignals, unhandled, Call.underway,
        Call.found]
    | ok address =>
      simp only [System.beginRun, startBegin, down, Bool.false_eq_true, if_false]
      refine ⟨(by cases ·), ?_⟩
      cases mainThread <;> simp [System.tell, System.set, takeSignals, unhandled, Call.underway, Call.found, Signal.all]
  | stopBegins begins =>
    obtain ⟨left, halted, _⟩ := stopBegin_down before.listener resting.down
    have handlers := stopBegin_handlers before.listener
    simp only [halted] at handlers
    simp only [System.beginStop, System.beginHalt, halted]
    exact ⟨fresh, by simpa [System.tell, System.close, handlers] using taken⟩
  | runPolls starting => simpa [starting, Call.found] using resting_run before resting
  | runWakes serving woken => simpa [serving, Call.found] using resting_run before resting
  | runsLate caller waiting going => exact absurd waiting (resting_call before resting caller _)
  | forces caller late => exact absurd late (resting_call before resting caller _)
  | halts caller halt ending stopping awaits ended => exact absurd stopping (resting_call before resting caller _)
  | becomesReady going => simp [resting.down] at going
  | leaves engine going held asked => simp [resting.down] at going
  | fails ending going => simp [resting.down] at going
  | signals signal heard => exact ⟨fresh, taken⟩
  | asks => exact ⟨fresh, taken⟩

theorem further_heeds (call : Further) (begun : Begun before) (going : before.listener.running = true)
    (heeds : Heeds mainThread calls before) : Heeds mainThread (calls ++ [call]) (before.further call) := by
  obtain ⟨_, runs, left⟩ := further_refused before.listener going call
  obtain ⟨_, _, _, underway⟩ := going_underway before begun going
  rw [System.further, left]
  refine ⟨fun fresh => ?_, ?_⟩
  · simp [System.tell] at fresh
    simp [fresh] at underway
  · have taken := heeds.taken
    cases takes : call.takes <;> simp_all [System.tell]

theorem shared_heeds (first : System) (sound : Sound first) (heeds : Heeds mainThread [] first)
    (shared : Shared mainThread bound first calls before) : Heeds mainThread calls before := by
  induction shared with
  | begins => exact heeds
  | goes calls before after shared step ih =>
    cases shared_sound mainThread bound first calls before sound shared with
    | resting resting => exact resting_heeds mainThread before bound calls after resting ih step
    | begun begun =>
      exact moved_heeds mainThread before calls after ih (begun_moves mainThread before bound after begun step)
  | refuses calls before call shared going ih =>
    have begun := sound_going before (shared_sound mainThread bound first calls before sound shared) going
    exact further_heeds mainThread before calls call begun going ih

end

section

variable (mainThread : Bool) (bound : Except String Address) (system : System) (caller : Caller)

theorem close_signals (outcome : Outcome) : (system.close mainThread caller outcome).signals = system.signals := by
  cases caller <;> rfl

theorem set_signals (call : Call) : (system.set caller call).signals = system.signals := by
  cases caller <;> rfl

theorem beginHalt_signals : (system.beginHalt mainThread caller).signals = system.signals := by
  unfold System.beginHalt
  split
  · exact close_signals mainThread _ caller .returned
  · exact set_signals _ caller (.stopping .waiting)

theorem beginRun_signals : (system.beginRun mainThread bound).signals = system.signals := by
  unfold System.beginRun
  split
  split
  · exact close_signals mainThread _ .run _
  · exact set_signals _ .run .starting

theorem pollRun_signals : (system.pollRun mainThread).signals = system.signals := by
  unfold System.pollRun
  split
  · rfl
  · exact close_signals mainThread _ .run _
  · exact set_signals _ .run .serving

theorem wakeRun_signals : (system.wakeRun mainThread).signals = system.signals := by
  unfold System.wakeRun
  split
  · exact close_signals mainThread _ .run _
  · exact beginHalt_signals mainThread _ .run

theorem forceHalt_signals : (system.forceHalt mainThread caller).signals = system.signals := by
  unfold System.forceHalt
  split
  split
  · exact set_signals _ caller (.stopping .forced)
  · exact close_signals mainThread _ caller _

-- A signal reaches the run only where it is taken.
theorem step_signals (after : System) (step : Step mainThread bound system after) :
    after.signals = system.signals ∨ ∃ signal ∈ system.listener.handlers.map Prod.fst,
      after.signals = system.signals ++ [signal] := by
  cases step with
  | runBegins fresh => exact .inl (beginRun_signals mainThread bound system)
  | runPolls starting => exact .inl (pollRun_signals mainThread system)
  | runWakes serving woken => exact .inl (wakeRun_signals mainThread system)
  | stopBegins fresh => exact .inl (beginHalt_signals mainThread _ .stop)
  | runsLate caller waiting going => exact .inl (set_signals _ caller (.stopping .late))
  | forces caller late => exact .inl (forceHalt_signals mainThread system caller)
  | halts caller halt ending stopping awaits ended => exact .inl (close_signals mainThread _ caller _)
  | becomesReady | leaves | fails | asks => exact .inl rfl
  | signals signal taken => exact .inr ⟨signal, taken, rfl⟩

theorem unheard_signals (first : System) (calls more : List Further) (reached : System) (sound : Sound first)
    (heeds : Heeds mainThread [] first) (shared : Shared mainThread bound first calls system)
    (untaken : mainThread = false ∨ calls.any Further.takes = true)
    (onwards : Shared mainThread bound system more reached) : reached.signals = system.signals := by
  induction onwards with
  | begins => rfl
  | goes more before after onwards step ih =>
    have heeds := shared_heeds mainThread before bound (calls ++ more) first sound heeds
      (shared_onwards mainThread bound first calls system more before shared onwards)
    have taken : before.listener.handlers.map Prod.fst = [] := by
      rw [heeds.taken]
      rcases untaken with off | takes
      · simp [off]
      · simp [takes]
    rcases step_signals mainThread bound before after step with same | ⟨signal, heard, _⟩
    · exact same.trans ih
    · simp [taken] at heard
  | refuses more before call _ _ ih => exact ih

/- A run that hears a signal -/

def shutdownJournal (signal : Signal) : Journal :=
  [wakeEntry (.signal signal), ⟨.info, "server shutting down"⟩, stopped]

-- The run can shut down and return, without a failure or a delay, telling which signal it has received.
def Returns (signal : Signal) : Prop :=
  ∃ reached told, Steps mainThread bound system reached ∧ reached.happened = system.happened ∧
    reached.run = .done .returned ∧ reached.listener.release = reached.listener ∧
    reached.journal = system.journal ++ told ++ shutdownJournal signal

theorem serving_returns (engine : Engine) (built : system.listener.engine = some engine)
    (serving : system.listener.serving = some .going) (unended : system.ended = none) (run : system.run = .serving)
    (signal : Signal) (heard : system.signals.head? = some signal) : Returns mainThread bound system signal := by
  obtain ⟨⟨setup, _, _, socket, handlers, runs⟩, _, signals, asked, _, stop, journal, failed, overtime, found⟩ :=
    system
  subst built serving unended run
  obtain ⟨rest, rfl⟩ : ∃ rest, signals = signal :: rest := by
    cases signals with
    | nil => simp at heard
    | cons other rest => exact ⟨rest, by simpa using heard⟩
  refine ⟨_, [], .head (.runWakes _ rfl (.inr (.inl nofun))) (.head (.leaves _ _ rfl rfl rfl)
    (.single (.halts _ .run .waiting .finished rfl nofun rfl))), rfl, rfl, ?_, ?_⟩
  · exact leaveSignals_release mainThread _
  · show journal ++ [wakeEntry (.signal signal)] ++ [⟨.info, "server shutting down"⟩] ++ [stopped] =
      journal ++ [] ++ shutdownJournal signal
    simp [shutdownJournal]

theorem starting_returns (engine : Engine) (built : system.listener.engine = some engine)
    (serving : system.listener.serving = some .going) (unended : system.ended = none) (run : system.run = .starting)
    (signal : Signal) (heard : system.signals.head? = some signal) : Returns mainThread bound system signal := by
  let ready : System := { system with listener := system.listener.becomeReady }
  have built_ready : ready.listener.engine = some { engine with ready := true } := by
    simp [ready, becomeReady, built]
  have held : Held ready.listener ready.ended := by
    show Held ready.listener system.ended
    rw [unended]
    exact .going _ built_ready serving
  have polls : Step mainThread bound ready (ready.pollRun mainThread) := .runPolls ready run
  rcases pollRun_cases mainThread ready held with ⟨other, told, same, _, polled⟩ | ⟨ended, _⟩
  · rw [built_ready] at same
    obtain rfl := Option.some.inj same
    rw [polled] at polls
    obtain ⟨reached, more, steps, happened, done, released, journal⟩ := serving_returns mainThread bound
      ((ready.tell told ready.listener).set .run .serving) _ built_ready serving unended rfl signal heard
    refine ⟨reached, told ++ more, .head (.becomesReady system ?_) (.head polls steps), happened, done, released, ?_⟩
    · simp [running, serving]
    · rw [journal]
      simp [System.set, System.tell, ready]
  · exact absurd unended ended

theorem underway_returns (begun : Begun system) (going : system.listener.running = true)
    (early : system.run = .starting ∨ system.run = .serving) (signal : Signal)
    (heard : system.signals.head? = some signal) : Returns mainThread bound system signal := by
  obtain ⟨unended, ⟨engine, built⟩, serving, _⟩ := going_underway system begun going
  rcases early with run | run
  · exact starting_returns mainThread bound system engine built serving unended run signal heard
  · exact serving_returns mainThread bound system engine built serving unended run signal heard

theorem sound_accounted (sound : Sound system) : Accounted mainThread bound system := by
  cases sound with
  | resting resting => exact resting_accounted system mainThread bound resting
  | begun begun => exact begun_accounted system mainThread bound begun

def System.signalled (signal : Signal) (system : System) : System :=
  { system with signals := system.signals ++ [signal] }

/-- A signal reaches the run. From then on the run can shut down and return, as the first signal that it has received
    tells it to; and however it goes on, with whatever further calls, it returns, if nothing fails and it is not
    disturbed by a stop from outside. -/
structure Heard (signal : Signal) : Prop where
  sent : Step mainThread bound system (system.signalled signal)
  returns : system.run = .starting ∨ system.run = .serving → ∀ first,
    (system.signalled signal).signals.head? = some first → Returns mainThread bound (system.signalled signal) first
  returned : ∀ more reached, Shared mainThread bound (system.signalled signal) more reached → reached.failed = false →
    reached.found ≠ some .underway → (reached.overtime = true → reached.found = none) →
    ∀ outcome, reached.run = .done outcome → outcome = .returned

theorem taken_heard (begun : Begun system) (going : system.listener.running = true) (signal : Signal)
    (taken : signal ∈ system.listener.handlers.map Prod.fst) : Heard mainThread bound system signal := by
  have begun_signalled : Begun (system.signalled signal) :=
    unmoved_begun system begun system.run begun.run _ system.asked system.journal
  refine ⟨.signals system signal taken, fun early first heard => ?_, fun more reached shared sound found inTime => ?_⟩
  · exact underway_returns mainThread bound _ begun_signalled going early first heard
  · exact (sound_accounted mainThread bound reached
      (shared_sound mainThread bound _ more reached (.begun begun_signalled) shared)).run sound found inTime

/-- What further calls come to on a listener that a run keeps running, when `calls` have been refused so far. Any
    number of them is refused, and they leave all that serves as it is. Signals reach the run as long as none of them
    has taken the signals over; afterwards none does. -/
structure Withstood (calls : List Further) : Prop where
  underway : system.run = .starting ∨ system.run = .serving ∨ ∃ halt, system.run = .stopping halt
  refused : ∀ more call, (Further.turn call (furthered more system.listener)).outcome = .raised alreadyRunning
  kept : ∀ more, ∃ runs, furthered more system.listener = { system.listener with
    handlers := if more.any Further.takes then [] else system.listener.handlers, runs := runs }
  heard : mainThread = true → calls.any Further.takes = false → ∀ signal, Heard mainThread bound system signal
  unheard : mainThread = false ∨ calls.any Further.takes = true → system.listener.handlers = [] ∧
    ∀ more reached, Shared mainThread bound system more reached → reached.signals = system.signals

end

/-- Further calls on a listener that a run keeps running are refused, at every moment and however many, and leave the
    engine, the serving, the socket and its address as they are. A run among them takes the signals away from the run
    that goes on; apart from that each signal makes that run shut down and return. -/
theorem further_calls_withstood (mainThread : Bool) (bound : Except String Address) (listener : Listener)
    (down : listener.running = false) (unhandled : listener.handlers = []) (calls : List Further) (system : System)
    (shared : Shared mainThread bound (System.initial listener) calls system)
    (going : system.listener.running = true) : Withstood mainThread bound system calls := by
  have sound := initial_sound listener down
  have heeds_first : Heeds mainThread [] (System.initial listener) := by
    refine ⟨fun _ => rfl, ?_⟩
    simp [System.initial, unhandled, Call.underway, Call.found]
  have begun := sound_going system (shared_sound mainThread bound _ calls system sound shared) going
  have taken := (shared_heeds mainThread system bound calls _ sound heeds_first shared).taken
  obtain ⟨_, _, _, underway⟩ := going_underway system begun going
  have is_underway : system.run.underway = true := by
    rcases underway with run | run | ⟨halt, run⟩ <;> rw [run] <;> rfl
  refine ⟨underway, fun more call => ?_, furthered_kept system.listener going, fun main untaken signal => ?_,
    fun lost => ⟨?_, fun more reached onwards => ?_⟩⟩
  · exact (further_refused _ (furthered_running system.listener going more) call).1
  · refine taken_heard mainThread bound system begun going signal ?_
    rw [taken]
    cases signal <;> simp [is_underway, main, untaken, Signal.all]
  · refine List.map_eq_nil_iff.mp (taken.trans ?_)
    rcases lost with off | takes
    · simp [off]
    · simp [takes]
  · exact unheard_signals mainThread bound system _ calls more reached sound heeds_first shared lost onwards

-- A run that serves, after a start has been refused.
theorem refused_start_withstood : (idle cleartext).running = false ∧ (idle cleartext).handlers = [] ∧
    ∃ calls system, calls ≠ [] ∧ Shared true (.ok loopback) (System.initial (idle cleartext)) calls system ∧
      system.listener.running = true ∧ system.run = .serving ∧ Withstood true (.ok loopback) system calls ∧
      Heard true (.ok loopback) system .terminate := by
  obtain ⟨system, steps, going, run⟩ : ∃ system, Steps true (.ok loopback) (System.initial (idle cleartext)) system ∧
      system.listener.running = true ∧ system.run = .serving :=
    ⟨_, .head (.runBegins _ rfl) <| .head (.becomesReady _ rfl) <| .single (.runPolls _ rfl), rfl, rfl⟩
  let call : Further := .start (.ok loopback) .ready
  have shared : Shared true (.ok loopback) (System.initial (idle cleartext)) [call] (system.further call) :=
    .refuses [] system call (shared_steps _ _ _ [] _ .begins system steps) going
  have going_on : (system.further call).listener.running = true :=
    furthered_running system.listener going [call]
  have withstood := further_calls_withstood true (.ok loopback) (idle cleartext) rfl rfl [call] _ shared going_on
  exact ⟨rfl, rfl, [call], _, nofun, shared, going_on, run, withstood, withstood.heard rfl rfl .terminate⟩

/-- A run is refused while another one serves, and from then on no signal reaches the one that serves. -/
theorem refused_run_takes_signals : ∃ system call,
    Steps true (.ok loopback) (System.initial (idle cleartext)) system ∧ system.listener.running = true ∧
      system.run = .serving ∧ (∀ signal, signal ∈ system.listener.handlers.map Prod.fst) ∧
      (Further.turn call system.listener).outcome = .raised alreadyRunning ∧
      (system.further call).listener.handlers = [] ∧
      ∀ more reached, Shared true (.ok loopback) (system.further call) more reached → reached.signals = [] := by
  obtain ⟨system, steps, going, run, taken, signals⟩ : ∃ system,
      Steps true (.ok loopback) (System.initial (idle cleartext)) system ∧ system.listener.running = true ∧
        system.run = .serving ∧ system.listener.handlers.map Prod.fst = Signal.all ∧ system.signals = [] :=
    ⟨_, .head (.runBegins _ rfl) <| .head (.becomesReady _ rfl) <| .single (.runPolls _ rfl), rfl, rfl, rfl, rfl⟩
  let call : Further := .run true (.ok loopback) .ready .asked .inTime
  obtain ⟨refused, runs, left⟩ := further_refused system.listener going call
  have heeds : Heeds true [] (System.initial (idle cleartext)) := ⟨fun _ => rfl, rfl⟩
  refine ⟨system, call, steps, going, run, fun signal => ?_, refused, ?_, fun more reached onwards => ?_⟩
  · rw [taken]
    cases signal <;> decide
  · simp [System.further, left, System.tell, call, Further.takes]
  · have shared : Shared true (.ok loopback) (System.initial (idle cleartext)) [call] (system.further call) :=
      .refuses [] system call (shared_steps _ _ _ [] _ .begins system steps) going
    exact (unheard_signals true (.ok loopback) _ _ [call] more reached (initial_sound _ rfl) heeds shared (.inr rfl)
      onwards).trans signals

end Gatehouse.Listener
