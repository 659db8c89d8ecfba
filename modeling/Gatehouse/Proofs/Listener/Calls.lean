import Gatehouse.Listener.Life
import Mathlib.Logic.Relation

/- A run and a stop from outside on one listener, section by section. Between two sections of a call the serving, the
   other call, signals and the event by which a run is cancelled go on in any order; whoever waits for the serving is
   woken when it has ended, in any order as well. The engine is taken to end once it has been asked to leave or been
   forced to. -/
namespace Gatehouse.Listener

-- How far a shutdown is: it waits for the serving to end, and forces it to when the grace period is over.
inductive Halt where
  | waiting
  | late
  | forced
deriving DecidableEq

inductive Call where
  | fresh
  | starting
  | serving
  | stopping (halt : Halt)
  | done (outcome : Outcome)
deriving DecidableEq

inductive Caller where
  | run
  | stop
deriving DecidableEq

-- What a stop from outside finds a run at.
inductive Found where
  | underway
  | leaving
deriving DecidableEq

def Call.found : Call → Option Found
  | .starting | .serving => some .underway
  | .stopping _ => some .leaving
  | .fresh | .done _ => none

/-- The two calls and what they share. How the serving ended is known to whoever waits for it, also when the listener
    has been released. The last three tell what has happened: whether the listener could not be bound or ended unasked,
    whether a grace period has run out, and what the stop from outside found the run at. -/
structure System where
  listener : Listener
  ended : Option Ending
  signals : List Signal
  asked : Bool
  run : Call
  stop : Call
  journal : Journal
  failed : Bool
  overtime : Bool
  found : Option Found

namespace System

def initial (listener : Listener) : System := ⟨listener, none, [], false, .fresh, .fresh, [], false, false, none⟩

def call (system : System) : Caller → Call
  | .run => system.run
  | .stop => system.stop

def set (caller : Caller) (call : Call) (system : System) : System :=
  match caller with
  | .run => { system with run := call }
  | .stop => { system with stop := call }

def tell (told : Journal) (left : Listener) (system : System) : System :=
  { system with listener := left, journal := system.journal ++ told }

-- The end of a call; that of a run gives the signals back.
def close (mainThread : Bool) (caller : Caller) (outcome : Outcome) (system : System) : System :=
  match caller with
  | .run => { system with run := .done outcome, listener := system.listener.leaveSignals mainThread }
  | .stop => { system with stop := .done outcome }

def beginHalt (mainThread : Bool) (caller : Caller) (system : System) : System :=
  match system.listener.stopBegin with
  | (told, false, left) => (system.tell told left).close mainThread caller .returned
  | (told, true, left) => (system.tell told left).set caller (.stopping .waiting)

def unforced : Refusal := .foreign ⟨"AttributeError", some "'NoneType' object has no attribute 'force_exit'", false⟩

def forceHalt (mainThread : Bool) (caller : Caller) (system : System) : System :=
  let (told, forced) := system.listener.stopForce
  match system.listener.engine with
  | some _ => (system.tell told forced).set caller (.stopping .forced)
  | none => (system.tell told forced.release).close mainThread caller (.raised unforced)

-- A failure of the serving goes through a shutdown that has been forced.
def haltEnd (halt : Halt) (ending : Ending) (listener : Listener) : Journal × Except Refusal Unit × Listener :=
  match halt, ending with
  | .forced, .exited status => ([], .error (endError (.exited status)), listener.release)
  | _, _ => listener.stopEnd ending

def finishHalt (mainThread : Bool) (caller : Caller) (halt : Halt) (ending : Ending) (system : System) : System :=
  let (told, outcome, left) := haltEnd halt ending system.listener
  (system.tell told left).close mainThread caller (Outcome.of outcome)

def beginRun (mainThread : Bool) (bound : Except String Address) (system : System) : System :=
  let (told, taken) := system.listener.takeSignals mainThread
  match taken.startBegin bound with
  | (.error refusal, begun) =>
    ({ system with failed := system.failed || !taken.running }.tell told begun).close mainThread .run (.raised refusal)
  | (.ok (), begun) => (system.tell told begun).set .run .starting

def pollRun (mainThread : Bool) (system : System) : System :=
  match system.listener.startPoll with
  | (told, none, left) => system.tell told left
  | (told, some (.error refusal), left) => (system.tell told left).close mainThread .run (.raised refusal)
  | (told, some (.ok ()), left) => (system.tell told left).set .run .serving

-- The serving has ended only for a listener that still holds it; any other cause is a signal or taken for the event.
def wake (system : System) : Wake :=
  match system.listener.serving, system.signals with
  | some (.ended ending), _ => .serving ending
  | _, signal :: _ => .signal signal
  | _, [] => .asked

def wakeRun (mainThread : Bool) (system : System) : System :=
  match system.wake with
  | .serving ending =>
    (system.tell [wakeEntry (.serving ending)] system.listener.release).close mainThread .run
      (.raised (endError ending))
  | other => (system.tell [wakeEntry other] system.listener).beginHalt mainThread .run

def beginStop (mainThread : Bool) (system : System) : System :=
  { system with found := system.run.found }.beginHalt mainThread .stop

def endServing (ending : Ending) (system : System) : System :=
  { system with listener := system.listener.endServing ending, ended := some ending }

end System

/-- What may happen next. -/
inductive Step (mainThread : Bool) (bound : Except String Address) : System → System → Prop where
  | runBegins (system : System) (fresh : system.run = .fresh) :
    Step mainThread bound system (system.beginRun mainThread bound)
  | runPolls (system : System) (starting : system.run = .starting) :
    Step mainThread bound system (system.pollRun mainThread)
  | runWakes (system : System) (serving : system.run = .serving)
    (woken : system.ended ≠ none ∨ system.signals ≠ [] ∨ system.asked = true) :
    Step mainThread bound system (system.wakeRun mainThread)
  | stopBegins (system : System) (fresh : system.stop = .fresh) :
    Step mainThread bound system (system.beginStop mainThread)
  | runsLate (system : System) (caller : Caller) (waiting : system.call caller = .stopping .waiting)
    (going : system.ended = none) :
    Step mainThread bound system ({ system with overtime := true }.set caller (.stopping .late))
  | forces (system : System) (caller : Caller) (late : system.call caller = .stopping .late) :
    Step mainThread bound system (system.forceHalt mainThread caller)
  | halts (system : System) (caller : Caller) (halt : Halt) (ending : Ending)
    (stopping : system.call caller = .stopping halt) (awaits : halt ≠ .late) (ended : system.ended = some ending) :
    Step mainThread bound system (system.finishHalt mainThread caller halt ending)
  | becomesReady (system : System) (going : system.listener.running = true) :
    Step mainThread bound system { system with listener := system.listener.becomeReady }
  | leaves (system : System) (engine : Engine) (going : system.listener.running = true)
    (held : system.listener.engine = some engine) (asked : engine.leaving = true) :
    Step mainThread bound system (system.endServing .finished)
  | fails (system : System) (ending : Ending) (going : system.listener.running = true) :
    Step mainThread bound system { system.endServing ending with failed := true }
  | signals (system : System) (signal : Signal) (taken : signal ∈ system.listener.handlers.map Prod.fst) :
    Step mainThread bound system { system with signals := system.signals ++ [signal] }
  | asks (system : System) : Step mainThread bound system { system with asked := true }

abbrev Steps (mainThread : Bool) (bound : Except String Address) : System → System → Prop :=
  Relation.ReflTransGen (Step mainThread bound)

/- A run alone -/

section

variable (mainThread : Bool) (bound : Except String Address)

-- The run can come to its end with this outcome and leave the listener and the journal like this.
def Comes (system : System) (outcome : Outcome) (listener : Listener) (journal : Journal) : Prop :=
  ∃ reached, Steps mainThread bound system reached ∧ reached.run = .done outcome ∧ reached.listener = listener ∧
    reached.journal = journal

-- A shutdown that nobody disturbs is a stop.
theorem halt_alone (system : System) (engine : Engine) (built : system.listener.engine = some engine)
    (serving : system.listener.serving = some .going) (unended : system.ended = none) (drain : Drain) :
    Comes mainThread bound (system.beginHalt mainThread .run) (system.listener.stop drain).outcome
      ((system.listener.stop drain).listener.leaveSignals mainThread)
      (system.journal ++ (system.listener.stop drain).journal) := by
  obtain ⟨⟨setup, _, _, socket, handlers, runs⟩, _, signals, asked, run, stop, journal, failed, overtime, found⟩ :=
    system
  subst built serving unended
  cases drain with
  | inTime =>
    refine ⟨_, .head (.leaves _ _ rfl rfl rfl) (.single (.halts _ .run .waiting .finished rfl nofun rfl)), rfl, rfl, ?_⟩
    exact List.append_assoc _ _ _
  | overtime =>
    refine ⟨_, .head (.runsLate _ .run rfl rfl) (.head (.forces _ .run rfl) (.head (.leaves _ _ rfl rfl rfl)
      (.single (.halts _ .run .forced .finished rfl nofun rfl)))), rfl, rfl, ?_⟩
    exact (List.append_assoc _ _ _).trans (List.append_assoc _ _ _)

-- A run that serves and is woken by one thing.
theorem finish_alone (system : System) (engine : Engine) (built : system.listener.engine = some engine)
    (serving : system.listener.serving = some .going) (unended : system.ended = none) (woken : system.run = .serving)
    (unsignalled : system.signals = []) (wake : Wake) (kept : wake ≠ .dropped)
    (heard : ∀ signal, wake = .signal signal → signal ∈ system.listener.handlers.map Prod.fst) (drain : Drain) :
    Comes mainThread bound system (system.listener.finish wake drain).outcome
      ((system.listener.finish wake drain).listener.leaveSignals mainThread)
      (system.journal ++ (system.listener.finish wake drain).journal) := by
  have halted (told : Entry) (signals : List Signal) (asked : Bool) :
      Comes mainThread bound (({ system with signals := signals, asked := asked }.tell [told]
          system.listener).beginHalt mainThread .run) (system.listener.stop drain).outcome
        ((system.listener.stop drain).listener.leaveSignals mainThread)
        (system.journal ++ told :: (system.listener.stop drain).journal) := by
    obtain ⟨reached, steps, done, left, journal⟩ := halt_alone mainThread bound
      ({ system with signals := signals, asked := asked }.tell [told] system.listener) engine built serving unended
      drain
    exact ⟨reached, steps, done, left, journal.trans (List.append_assoc _ _ _)⟩
  obtain ⟨⟨setup, _, _, socket, handlers, runs⟩, _, _, asked, _, stop, journal, failed, overtime, found⟩ := system
  subst built serving unended woken unsignalled
  cases wake with
  | serving ending =>
    exact ⟨_, .head (.fails _ ending rfl) (.single (.runWakes _ rfl (.inl nofun))), rfl, rfl, rfl⟩
  | signal signal =>
    obtain ⟨reached, steps, ends⟩ := halted (wakeEntry (.signal signal)) [signal] asked
    exact ⟨reached, .head (.signals _ signal (heard signal rfl)) (.head (.runWakes _ rfl (.inr (.inl nofun))) steps),
      ends⟩
  | asked =>
    obtain ⟨reached, steps, ends⟩ := halted (wakeEntry .asked) [] true
    exact ⟨reached, .head (.asks _) (.head (.runWakes _ rfl (.inr (.inr rfl))) steps), ends⟩
  | dropped => exact absurd rfl kept

theorem taken_signal (listener : Listener) (taken : mainThread = true) (signal : Signal) :
    signal ∈ (listener.takeSignals mainThread).2.handlers.map Prod.fst := by
  subst taken
  cases signal with
  | interrupt => exact .head _
  | terminate => exact .tail _ (.head _)

-- Whatever a run comes to alone, it may come to.
theorem run_alone (listener : Listener) (down : listener.running = false) (startup : Startup)
    (started : startup ≠ .dropped) (wake : Wake) (kept : wake ≠ .dropped)
    (heard : ∀ signal, wake = .signal signal → mainThread = true) (drain : Drain) :
    Comes mainThread bound (System.initial listener) (listener.run mainThread bound startup wake drain).outcome
      (listener.run mainThread bound startup wake drain).listener
      (listener.run mainThread bound startup wake drain).journal := by
  have unbegun : (listener.takeSignals mainThread).2.running = false := by
    cases mainThread <;> exact down
  have begins : Step mainThread bound (System.initial listener)
      ((System.initial listener).beginRun mainThread bound) := .runBegins _ rfl
  cases bound with
  | error reason =>
    refine ⟨_, .single begins, ?_, ?_, ?_⟩ <;>
      simp [System.beginRun, startBegin, unbegun, Listener.run, start, System.initial, System.close, System.tell]
  | ok address =>
    generalize taken : listener.takeSignals mainThread = took at unbegun
    obtain ⟨told, holder⟩ := took
    let begun : Listener := { holder with
      engine := some ⟨false, false, false⟩, socket := some ⟨address, true⟩, serving := some .going }
    have began : (System.initial listener).beginRun mainThread (.ok address) =
        ⟨begun, none, [], false, .starting, .fresh, told, false, false, none⟩ := by
      simp only [System.beginRun, startBegin, System.initial, taken, unbegun, Bool.false_eq_true, if_false]
      rfl
    have starts : holder.start (.ok address) startup = begun.startEnd startup := by
      simp only [start, startBegin, unbegun, Bool.false_eq_true, if_false]
      rfl
    rw [began] at begins
    simp only [Listener.run, taken, starts]
    cases startup with
    | ready =>
      have heard_by : ∀ signal, wake = .signal signal → signal ∈ holder.handlers.map Prod.fst := by
        intro signal same
        have member := taken_signal mainThread listener (heard signal same) signal
        rwa [taken] at member
      obtain ⟨reached, steps, ends⟩ := finish_alone mainThread (.ok address)
        ⟨begun.becomeReady, none, [], false, .serving, .fresh, told ++ [listening begun.setup address], false, false,
          none⟩ _ rfl rfl rfl rfl rfl wake kept heard_by drain
      exact ⟨reached, .head begins (.head (.becomesReady _ rfl) (.head (.runPolls _ rfl) steps)), ends⟩
    | ended ending =>
      exact ⟨_, .head begins (.head (.fails _ ending rfl) (.single (.runPolls _ rfl))), rfl, rfl,
        (List.append_nil _).symm⟩
    | dropped => exact absurd rfl started

end
end Gatehouse.Listener
