import Gatehouse.Proofs.Listener.Further

/- What a call on a listener leaves behind, however it goes. A call may be dropped wherever it waits, also while it
   shuts down, and the serving that it shuts down may end late, badly or not at all. -/
namespace Gatehouse

-- Whether a call raises a runtime error, as one does that is refused.
def Outcome.rejects : Outcome → Bool
  | .raised (.foreign failure) => failure.name == "RuntimeError"
  | _ => false

-- The outcome of a call that shuts down because it has been dropped.
def Outcome.dropped : Outcome → Outcome
  | .returned => .cancelled
  | other => other

-- Whether the serving ends with a runtime error of its own.
def Ending.isRuntimeError : Ending → Bool
  | .failed failure => failure.name == "RuntimeError"
  | _ => false

theorem dropped_rejects (outcome : Outcome) : outcome.dropped.rejects = outcome.rejects := by
  cases outcome <;> rfl

namespace Listener

/- A shutdown -/

-- The serving has ended already, or it ends in time, or after it has been forced to, or not even then; or the call is
-- dropped while it waits for it.
inductive Shutdown where
  | unneeded (ending : Ending)
  | inTime (ending : Ending)
  | forced (ending : Ending)
  | givenUp
  | dropped

def Shutdown.before : Shutdown → Listener → Listener
  | .unneeded ending, listener => listener.endServing ending
  | _, listener => listener

-- What a shutdown comes to that waits for the serving.
def Shutdown.waited : Shutdown → Listener → Turn
  | .unneeded _, leaving => ⟨[], .returned, leaving.release⟩
  | .inTime ending, leaving =>
    let (told, outcome, left) := leaving.stopEnd ending
    ⟨told, .of outcome, left⟩
  | .forced ending, leaving =>
    let (warned, leaving) := leaving.stopForce
    let (told, outcome, left) := System.haltEnd .forced ending leaving
    ⟨warned ++ told, .of outcome, left⟩
  | .givenUp, leaving => ⟨leaving.stopForce.1 ++ [stopped], .returned, leaving.release⟩
  | .dropped, leaving => ⟨[], .cancelled, leaving.release⟩

-- Whether a shutdown that waits for the serving meets a runtime error of it, which goes through the call.
def Shutdown.isRuntimeError : Shutdown → Bool
  | .inTime ending | .forced ending => ending.isRuntimeError
  | _ => false

def stopBy (shutdown : Shutdown) (listener : Listener) : Turn :=
  match (shutdown.before listener).stopBegin with
  | (told, false, left) => ⟨told, .returned, left⟩
  | (told, true, leaving) =>
    let turn := shutdown.waited leaving
    ⟨told ++ turn.journal, turn.outcome, turn.listener⟩

/- A run -/

-- What a run comes to that wakes up. One that is dropped while it shuts down finds nothing left to shut down.
def finishBy (wake : Wake) (shutdown : Shutdown) (listener : Listener) : Turn :=
  let turn := listener.stopBy shutdown
  match wake with
  | .serving ending => ⟨[wakeEntry wake], .raised (endError ending), (listener.endServing ending).release⟩
  | .dropped => ⟨wakeEntry wake :: turn.journal, turn.outcome.dropped, turn.listener⟩
  | _ =>
    match turn.outcome with
    | .cancelled =>
      let (told, _, left) := turn.listener.stopBegin
      ⟨wakeEntry wake :: turn.journal ++ wakeEntry .dropped :: told, .cancelled, left⟩
    | outcome => ⟨wakeEntry wake :: turn.journal, outcome, turn.listener⟩

-- What a run comes to between taking the signals over and giving them back.
def serveBy (bound : Except String Address) (startup : Startup) (wake : Wake) (shutdown : Shutdown)
    (listener : Listener) : Turn :=
  let started := listener.start bound startup
  let ended := match started.outcome with
    | .returned => started.listener.finishBy wake shutdown
    | .cancelled => started.listener.finishBy .dropped shutdown
    | .raised refusal => ⟨[], .raised refusal, started.listener⟩
  ⟨started.journal ++ ended.journal, ended.outcome, ended.listener⟩

def runBy (mainThread : Bool) (bound : Except String Address) (startup : Startup) (wake : Wake) (shutdown : Shutdown)
    (listener : Listener) : Turn :=
  let (signals, taken) := listener.takeSignals mainThread
  let turn := taken.serveBy bound startup wake shutdown
  ⟨signals ++ turn.journal, turn.outcome, turn.listener.leaveSignals mainThread⟩

/- A stop and a run whose serving ends as it is asked to are among them -/

def shutdownOf : Drain → Shutdown
  | .inTime => .inTime .finished
  | .overtime => .forced .finished

section

variable (listener : Listener) (drain : Drain)

theorem endServing_release (ending : Ending) : (listener.endServing ending).release = listener.release := by
  unfold endServing
  split <;> rfl

theorem stop_by : listener.stop drain = listener.stopBy (shutdownOf drain) := by
  unfold Listener.stop stopBy
  rcases begun : listener.stopBegin with ⟨told, waits, leaving⟩
  cases waits with
  | false => cases drain <;> simp only [shutdownOf, Shutdown.before, begun]
  | true =>
    cases drain with
    | inTime =>
      simp only [shutdownOf, Shutdown.before, begun, Shutdown.waited, stopEnd, endServing_release,
        List.append_nil]
    | overtime =>
      simp only [shutdownOf, Shutdown.before, begun, Shutdown.waited, System.haltEnd, stopEnd,
        endServing_release, List.append_assoc]

theorem stop_by_returns : (listener.stopBy (shutdownOf drain)).outcome = .returned := by
  unfold stopBy
  split
  · rfl
  · cases drain <;> rfl

theorem finish_by (wake : Wake) : listener.finish wake drain = listener.finishBy wake (shutdownOf drain) := by
  have returned := stop_by_returns listener drain
  cases wake <;> simp [finish, finishBy, stop_by, returned, Outcome.dropped]

theorem run_by (mainThread : Bool) (bound : Except String Address) (startup : Startup) (wake : Wake) :
    listener.run mainThread bound startup wake drain =
      listener.runBy mainThread bound startup wake (shutdownOf drain) := by
  simp only [Listener.run, runBy, serveBy]
  cases ((listener.takeSignals mainThread).2.start bound startup).outcome with
  | returned | cancelled => simp only [finish_by, List.append_assoc]
  | raised refusal => simp only [List.append_assoc]

end

/- What a call leaves behind -/

/-- Between two calls nothing is held, or the listener serves, or its serving has ended of itself and nobody has given
    the listener back yet. -/
inductive Between (listener : Listener) : Prop where
  | free (unserved : listener.serving = none) (unbound : listener.socket = none)
  | going (engine : Engine) (address : Address) (built : listener.engine = some engine)
    (serving : listener.serving = some .going) (bound : listener.socket = some ⟨address, true⟩)
  | lapsed (engine : Engine) (ending : Ending) (address : Address) (built : listener.engine = some engine)
    (serving : listener.serving = some (.ended ending)) (closed : listener.socket = some ⟨address, false⟩)

/-- A call has given everything back. -/
structure GivesBack (before : Listener) (turn : Turn) : Prop where
  unserved : turn.listener.serving = none
  unbound : turn.listener.socket = none
  handlers : turn.listener.handlers = before.handlers

theorem endServing_between (listener : Listener) (ending : Ending) (between : Between listener) :
    Between (listener.endServing ending) := by
  cases between with
  | free unserved unbound =>
    have still : listener.endServing ending = listener := by simp [endServing, running, unserved]
    exact still.symm ▸ .free unserved unbound
  | going engine address built serving bound =>
    have lapsed : listener.endServing ending =
        { listener with serving := some (.ended ending), socket := some ⟨address, false⟩ } := by
      simp [endServing, running, serving, bound]
    exact lapsed.symm ▸ .lapsed engine ending address built rfl rfl
  | lapsed engine before address built serving closed =>
    have still : listener.endServing ending = listener := by simp [endServing, running, serving]
    exact still.symm ▸ .lapsed engine before address built serving closed

theorem before_between (listener : Listener) (shutdown : Shutdown) (between : Between listener) :
    Between (shutdown.before listener) := by
  cases shutdown with
  | unneeded ending => exact endServing_between listener ending between
  | inTime | forced | givenUp | dropped => exact between

theorem before_handlers (listener : Listener) (shutdown : Shutdown) :
    (shutdown.before listener).handlers = listener.handlers := by
  cases shutdown with
  | unneeded ending => exact endServing_handlers listener ending
  | inTime | forced | givenUp | dropped => rfl

theorem waited_back (listener : Listener) (shutdown : Shutdown) : GivesBack listener (shutdown.waited listener) := by
  cases shutdown with
  | unneeded | givenUp | dropped => exact ⟨rfl, rfl, rfl⟩
  | inTime ending | forced ending => cases ending <;> exact ⟨rfl, rfl, rfl⟩

theorem waited_rejects (listener : Listener) (shutdown : Shutdown) :
    (shutdown.waited listener).outcome.rejects = shutdown.isRuntimeError := by
  cases shutdown with
  | unneeded | givenUp | dropped => rfl
  | inTime ending | forced ending => cases ending <;> rfl

theorem before_rejects (listener : Listener) (shutdown : Shutdown) :
    ((shutdown.before listener).running && shutdown.isRuntimeError) =
      (listener.running && shutdown.isRuntimeError) := by
  cases shutdown with
  | unneeded => simp only [Shutdown.isRuntimeError, Bool.and_false]
  | inTime | forced | givenUp | dropped => rfl

theorem stopBegin_free (listener : Listener) (unserved : listener.serving = none) :
    listener.stopBegin = ([], false, listener) := by
  cases built : listener.engine <;> simp only [stopBegin, built, unserved]

theorem stopBegin_between (listener : Listener) (between : Between listener) :
    (listener.running = false ∧ ∃ left, listener.stopBegin = ([], false, left) ∧ left.serving = none ∧
      left.socket = none ∧ left.handlers = listener.handlers) ∨
    (listener.running = true ∧ ∃ told leaving, listener.stopBegin = (told, true, leaving) ∧
      leaving.handlers = listener.handlers) := by
  cases between with
  | free unserved unbound =>
    exact .inl ⟨by simp [running, unserved], listener, stopBegin_free listener unserved, unserved, unbound, rfl⟩
  | going engine address built serving bound =>
    refine .inr ⟨by simp [running, serving], [⟨.info, "server shutting down"⟩],
      { listener with engine := some { engine with leaving := true } }, ?_, rfl⟩
    simp only [stopBegin, built, serving]
  | lapsed engine ending address built serving closed =>
    refine .inl ⟨by simp [running, serving], listener.release, ?_, rfl, rfl, rfl⟩
    simp only [stopBegin, built, serving]

theorem stopBy_back (listener : Listener) (shutdown : Shutdown) (between : Between listener) :
    GivesBack listener (listener.stopBy shutdown) := by
  have handlers := before_handlers listener shutdown
  rcases stopBegin_between _ (before_between listener shutdown between) with
    ⟨_, left, begun, unserved, unbound, same⟩ | ⟨_, told, leaving, begun, same⟩
  · simp only [stopBy, begun]
    exact ⟨unserved, unbound, same.trans handlers⟩
  · simp only [stopBy, begun]
    have back := waited_back leaving shutdown
    exact ⟨back.unserved, back.unbound, back.handlers.trans (same.trans handlers)⟩

-- A stop raises a runtime error only where the serving that it waits for fails with one.
theorem stopBy_rejects (listener : Listener) (shutdown : Shutdown) (between : Between listener) :
    (listener.stopBy shutdown).outcome.rejects = (listener.running && shutdown.isRuntimeError) := by
  rw [← before_rejects]
  rcases stopBegin_between _ (before_between listener shutdown between) with
    ⟨down, left, begun, _⟩ | ⟨going, told, leaving, begun, _⟩
  · simp only [stopBy, begun, down, Bool.false_and]
    rfl
  · simp only [stopBy, begun, going, Bool.true_and]
    exact waited_rejects leaving shutdown

theorem before_down (listener : Listener) (shutdown : Shutdown) (down : listener.running = false) :
    shutdown.before listener = listener := by
  cases shutdown with
  | unneeded ending => simp [Shutdown.before, endServing, down]
  | inTime | forced | givenUp | dropped => rfl

-- A listener of which nothing is held is left alone by a stop.
theorem stopBy_free (listener : Listener) (shutdown : Shutdown) (unserved : listener.serving = none) :
    listener.stopBy shutdown = ⟨[], .returned, listener⟩ := by
  have down : listener.running = false := by simp [running, unserved]
  simp only [stopBy, before_down listener shutdown down, stopBegin_free listener unserved]

-- What a serving has left that ended of itself is given back by a stop.
theorem stopBy_lapsed (listener : Listener) (shutdown : Shutdown) (engine : Engine) (ending : Ending)
    (built : listener.engine = some engine) (lapsed : listener.serving = some (.ended ending)) :
    listener.stopBy shutdown = ⟨[], .returned, listener.release⟩ := by
  have down : listener.running = false := by simp [running, lapsed]
  simp only [stopBy, before_down listener shutdown down, stopBegin, built, lapsed]

theorem endError_accepted (ending : Ending) : (Outcome.raised (endError ending)).rejects = false := by
  cases ending <;> rfl

theorem finishBy_back (listener : Listener) (wake : Wake) (shutdown : Shutdown) (between : Between listener) :
    GivesBack listener (listener.finishBy wake shutdown) := by
  have back := stopBy_back listener shutdown between
  cases wake with
  | serving ending => exact ⟨rfl, rfl, endServing_handlers listener ending⟩
  | dropped => exact ⟨back.unserved, back.unbound, back.handlers⟩
  | signal | asked =>
    simp only [finishBy]
    split
    · rw [stopBegin_free _ back.unserved]
      exact ⟨back.unserved, back.unbound, back.handlers⟩
    · exact ⟨back.unserved, back.unbound, back.handlers⟩

-- Whether a run wakes up because its serving has ended.
def Wake.isEnd : Wake → Bool
  | .serving _ => true
  | _ => false

theorem finishBy_rejects (listener : Listener) (wake : Wake) (shutdown : Shutdown) (between : Between listener)
    (going : listener.running = true) :
    (listener.finishBy wake shutdown).outcome.rejects = (!wake.isEnd && shutdown.isRuntimeError) := by
  have stops := stopBy_rejects listener shutdown between
  rw [going, Bool.true_and] at stops
  cases wake with
  | serving ending => exact endError_accepted ending
  | dropped => exact (dropped_rejects _).trans stops
  | signal | asked =>
    simp only [finishBy, Wake.isEnd, Bool.not_false, Bool.true_and]
    split
    · rename_i dropped
      rw [dropped] at stops
      exact stops
    · exact stops

/- A start and a run -/

section

variable (listener : Listener) (bound : Except String Address) (startup : Startup)

def begun (address : Address) (engine : Engine) (listener : Listener) : Listener :=
  { listener with engine := some engine, serving := some .going, socket := some ⟨address, true⟩ }

theorem begun_between (address : Address) (engine : Engine) : Between (listener.begun address engine) :=
  .going engine address rfl rfl rfl

/-- A start on a listener that is not running: it cannot bind, or it gets ready or is dropped, or the serving ends. -/
inductive Starts (turn : Turn) : Prop where
  | unbound (reason : String) (engine : Engine) (failed : bound = .error reason)
    (same : turn = ⟨[], .raised (bindError listener.setup reason), { listener with engine := some engine }⟩)
  | begun (address : Address) (engine : Engine) (opened : bound = .ok address)
    (outcome : turn.outcome = .returned ∧ engine.ready = true ∨ turn.outcome = .cancelled)
    (left : turn.listener = listener.begun address engine)
  | ended (address : Address) (ending : Ending) (opened : bound = .ok address)
    (outcome : turn.outcome = .raised (endError ending)) (left : turn.listener = listener.release)

theorem start_bound (address : Address) (down : listener.running = false) :
    listener.start (.ok address) startup = (listener.begun address ⟨false, false, false⟩).startEnd startup := by
  simp only [start, startBegin, down, Bool.false_eq_true, if_false]
  rfl

theorem start_cases (down : listener.running = false) :
    Starts listener bound (listener.start bound startup) := by
  cases bound with
  | error reason =>
    refine .unbound reason ⟨false, false, false⟩ rfl ?_
    simp only [start, startBegin, down, Bool.false_eq_true, if_false]
  | ok address =>
    rw [start_bound listener startup address down]
    cases startup with
    | ready => exact .begun address ⟨true, false, false⟩ rfl (.inl ⟨rfl, rfl⟩) rfl
    | ended ending => exact .ended address ending rfl rfl rfl
    | dropped => exact .begun address ⟨false, false, false⟩ rfl (.inr rfl) rfl

theorem start_rejects : (listener.start bound startup).outcome.rejects = listener.running := by
  cases going : listener.running with
  | true =>
    rw [start_refused listener going]
    rfl
  | false =>
    cases start_cases listener bound startup going with
    | unbound reason engine failed same =>
      rw [same]
      rfl
    | begun address engine opened outcome left =>
      rcases outcome with ⟨returned, _⟩ | cancelled
      · rw [returned]
        rfl
      · rw [cancelled]
        rfl
    | ended address ending opened outcome left =>
      rw [outcome]
      exact endError_accepted ending

variable (wake : Wake) (shutdown : Shutdown)

-- The serving has not ended of itself since the last call.
def Unended : Prop := ∀ ending, listener.serving ≠ some (.ended ending)

theorem down_free (between : Between listener) (down : listener.running = false) (unended : listener.Unended) :
    listener.serving = none ∧ listener.socket = none := by
  cases between with
  | free unserved unbound => exact ⟨unserved, unbound⟩
  | going engine address built serving => simp [running, serving] at down
  | lapsed engine ending address built serving => exact absurd serving (unended ending)

theorem serveBy_refused (going : listener.running = true) :
    listener.serveBy bound startup wake shutdown = ⟨[], .raised alreadyRunning, listener⟩ := by
  simp only [serveBy, start_refused listener going, List.append_nil]

theorem serveBy_unbound (down : listener.running = false) (reason : String) : ∃ engine,
    listener.serveBy (.error reason) startup wake shutdown =
      ⟨[], .raised (bindError listener.setup reason), { listener with engine := some engine }⟩ := by
  cases start_cases listener (.error reason) startup down with
  | unbound text engine failed same =>
    cases failed
    exact ⟨engine, by simp only [serveBy, same, List.append_nil]⟩
  | begun | ended => contradiction

theorem serveBy_back (down : listener.running = false) (address : Address) :
    GivesBack listener (listener.serveBy (.ok address) startup wake shutdown) := by
  cases start_cases listener (.ok address) startup down with
  | unbound reason engine failed => cases failed
  | begun other engine opened outcome left =>
    have finished (wake : Wake) := finishBy_back _ wake shutdown (begun_between listener other engine)
    rcases outcome with ⟨returned, _⟩ | cancelled
    · simp only [serveBy, returned, left]
      exact ⟨(finished wake).unserved, (finished wake).unbound, (finished wake).handlers⟩
    · simp only [serveBy, cancelled, left]
      exact ⟨(finished .dropped).unserved, (finished .dropped).unbound, (finished .dropped).handlers⟩
  | ended other ending opened outcome left =>
    simp only [serveBy, outcome, left]
    exact ⟨rfl, rfl, rfl⟩

-- Whether a run that is not refused comes to shut its serving down.
def shutsDown : Except String Address → Startup → Wake → Bool
  | .ok _, .ready, wake => !wake.isEnd
  | .ok _, .dropped, _ => true
  | _, _, _ => false

theorem serveBy_rejects (down : listener.running = false) :
    (listener.serveBy bound startup wake shutdown).outcome.rejects =
      (shutsDown bound startup wake && shutdown.isRuntimeError) := by
  cases bound with
  | error reason =>
    obtain ⟨engine, same⟩ := serveBy_unbound listener startup wake shutdown down reason
    rw [same]
    rfl
  | ok address =>
    have begun (engine : Engine) (wake : Wake) := finishBy_rejects _ wake shutdown
      (begun_between listener address engine) rfl
    rw [serveBy, start_bound listener startup address down]
    cases startup with
    | ready => exact begun ⟨true, false, false⟩ wake
    | ended ending => exact endError_accepted ending
    | dropped => exact begun ⟨false, false, false⟩ .dropped

theorem serveBy_handlers (down : listener.running = false) :
    (listener.serveBy bound startup wake shutdown).listener.handlers = listener.handlers := by
  cases bound with
  | error reason =>
    obtain ⟨engine, same⟩ := serveBy_unbound listener startup wake shutdown down reason
    rw [same]
  | ok address => exact (serveBy_back listener startup wake shutdown down address).handlers

theorem serveBy_frees (between : Between listener) (down : listener.running = false)
    (given : listener.Unended ∨ ∃ address, bound = .ok address) :
    (listener.serveBy bound startup wake shutdown).listener.serving = none ∧
      (listener.serveBy bound startup wake shutdown).listener.socket = none := by
  cases bound with
  | error reason =>
    obtain ⟨engine, same⟩ := serveBy_unbound listener startup wake shutdown down reason
    rw [same]
    exact down_free listener between down (given.resolve_right (by simp))
  | ok address =>
    have back := serveBy_back listener startup wake shutdown down address
    exact ⟨back.unserved, back.unbound⟩

end

/- Every call -/

section

variable (listener : Listener) (mainThread : Bool) (bound : Except String Address) (startup : Startup) (wake : Wake)
  (shutdown : Shutdown)

theorem takeSignals_serving : (listener.takeSignals mainThread).2.serving = listener.serving := by
  cases mainThread <;> rfl

theorem changed_between (left : Listener) (between : Between listener) (serving : left.serving = listener.serving)
    (socket : left.socket = listener.socket)
    (built : (∃ engine, listener.engine = some engine) → ∃ engine, left.engine = some engine) : Between left := by
  cases between with
  | free unserved unbound => exact .free (serving.trans unserved) (socket.trans unbound)
  | going engine address builds serves bound =>
    obtain ⟨changed, builds⟩ := built ⟨engine, builds⟩
    exact .going changed address builds (serving.trans serves) (socket.trans bound)
  | lapsed engine ending address builds serves closed =>
    obtain ⟨changed, builds⟩ := built ⟨engine, builds⟩
    exact .lapsed changed ending address builds (serving.trans serves) (socket.trans closed)

theorem takeSignals_between (between : Between listener) : Between (listener.takeSignals mainThread).2 := by
  cases mainThread <;> exact changed_between listener _ between rfl rfl id

theorem leaveSignals_between (between : Between listener) : Between (listener.leaveSignals mainThread) := by
  cases mainThread <;> exact changed_between listener _ between rfl rfl id

theorem built_between (engine : Engine) (between : Between listener) :
    Between { listener with engine := some engine } :=
  changed_between listener _ between rfl rfl fun _ => ⟨engine, rfl⟩

theorem start_between (between : Between listener) : Between (listener.start bound startup).listener := by
  cases going : listener.running with
  | true =>
    rw [start_refused listener going]
    exact between
  | false =>
    cases start_cases listener bound startup going with
    | unbound reason engine failed same => exact same ▸ built_between listener engine between
    | begun address engine opened outcome left => exact left ▸ begun_between listener address engine
    | ended address ending opened outcome left => exact left ▸ .free rfl rfl

theorem stopBy_between (between : Between listener) : Between (listener.stopBy shutdown).listener :=
  have back := stopBy_back listener shutdown between
  .free back.unserved back.unbound

theorem serveBy_between (between : Between listener) :
    Between (listener.serveBy bound startup wake shutdown).listener := by
  cases going : listener.running with
  | true =>
    rw [serveBy_refused listener bound startup wake shutdown going]
    exact between
  | false =>
    cases bound with
    | error reason =>
      obtain ⟨engine, same⟩ := serveBy_unbound listener startup wake shutdown going reason
      exact same ▸ built_between listener engine between
    | ok address =>
      have back := serveBy_back listener startup wake shutdown going address
      exact .free back.unserved back.unbound

theorem runBy_between (between : Between listener) :
    Between (listener.runBy mainThread bound startup wake shutdown).listener :=
  leaveSignals_between _ mainThread
    (serveBy_between _ bound startup wake shutdown (takeSignals_between listener mainThread between))

theorem runBy_refused (going : listener.running = true) :
    listener.runBy mainThread bound startup wake shutdown =
      ⟨(listener.takeSignals mainThread).1, .raised alreadyRunning,
        (listener.takeSignals mainThread).2.leaveSignals mainThread⟩ := by
  have taken := (takeSignals_running mainThread listener).trans going
  simp only [runBy, serveBy_refused _ bound startup wake shutdown taken, List.append_nil]

-- A run raises a runtime error where it is refused, or where the serving that it shuts down fails with one.
theorem runBy_rejects :
    (listener.runBy mainThread bound startup wake shutdown).outcome.rejects =
      (listener.running || (shutsDown bound startup wake && shutdown.isRuntimeError)) := by
  cases going : listener.running with
  | true =>
    rw [runBy_refused listener mainThread bound startup wake shutdown going]
    rfl
  | false =>
    have taken := (takeSignals_running mainThread listener).trans going
    exact serveBy_rejects _ bound startup wake shutdown taken

theorem runBy_handlers (unhandled : listener.handlers = []) :
    (listener.runBy mainThread bound startup wake shutdown).listener.handlers = [] := by
  cases mainThread with
  | true => rfl
  | false =>
    cases going : listener.running with
    | true =>
      rw [runBy_refused listener false bound startup wake shutdown going]
      exact unhandled
    | false =>
      have taken := (takeSignals_running false listener).trans going
      exact (serveBy_handlers _ bound startup wake shutdown taken).trans unhandled

theorem runBy_frees (between : Between listener) (down : listener.running = false)
    (given : listener.Unended ∨ ∃ address, bound = .ok address) :
    (listener.runBy mainThread bound startup wake shutdown).listener.serving = none ∧
      (listener.runBy mainThread bound startup wake shutdown).listener.socket = none := by
  have frees := serveBy_frees (listener.takeSignals mainThread).2 bound startup wake shutdown
    (takeSignals_between listener mainThread between) ((takeSignals_running mainThread listener).trans down)
    (given.imp_left fun unended => by rwa [Unended, takeSignals_serving])
  cases mainThread <;> exact frees

end

end Listener
end Gatehouse
