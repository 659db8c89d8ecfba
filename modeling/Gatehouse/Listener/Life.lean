import Gatehouse.Listener.Basic

/- Calls on a listener, each finished before the next begins. What the world does meanwhile is given: whether binding
   and starting up succeed, how a run is ended, and whether open requests end within the grace period. -/
namespace Gatehouse

-- How a start goes on when the socket is bound: the serving gets ready, or it ends, or the start is dropped before
-- either.
inductive Startup where
  | ready
  | ended (ending : Ending)
  | dropped
deriving DecidableEq

-- Whether the open requests end in time when the listener is stopped.
inductive Drain where
  | inTime
  | overtime
deriving DecidableEq

inductive Outcome where
  | returned
  | cancelled
  | raised (refusal : Refusal)
deriving DecidableEq

def Outcome.of : Except Refusal Unit → Outcome
  | .ok () => .returned
  | .error refusal => .raised refusal

structure Turn where
  journal : Journal
  outcome : Outcome
  listener : Listener

namespace Listener

-- Sets a listener up; it needs something to serve and somewhere to tell.
def create (hasService hasJournal : Bool) (setup : Setup) : Except Refusal Turn :=
  if !hasService then .error (.foreign (.valueError "a non-None ASGI app must be provided"))
  else if !hasJournal then .error (.foreign (.valueError "a non-None logger must be provided"))
  else .ok ⟨setup.told, .returned, idle setup⟩

-- The rest of a start whose socket is bound.
def startEnd (startup : Startup) (listener : Listener) : Turn :=
  let polled (listener : Listener) : Turn :=
    let (told, outcome, left) := listener.startPoll
    ⟨told, Outcome.of (outcome.getD (.ok ())), left⟩
  match startup with
  | .ready => polled listener.becomeReady
  | .ended ending => polled (listener.endServing ending)
  | .dropped => ⟨[], .cancelled, listener⟩

def start (bound : Except String Address) (startup : Startup) (listener : Listener) : Turn :=
  match listener.startBegin bound with
  | (.error refusal, begun) => ⟨[], .raised refusal, begun⟩
  | (.ok (), begun) => begun.startEnd startup

def stop (drain : Drain) (listener : Listener) : Turn :=
  match listener.stopBegin with
  | (told, false, left) => ⟨told, .returned, left⟩
  | (told, true, leaving) =>
    let (forced, leaving) := match drain with
      | .inTime => ([], leaving)
      | .overtime => leaving.stopForce
    let (ended, outcome, left) := (leaving.endServing .finished).stopEnd .finished
    ⟨told ++ forced ++ ended, Outcome.of outcome, left⟩

-- The listener ends of itself.
def exit (listener : Listener) : Turn := ⟨[], .returned, listener.endServing .finished⟩

-- What a run does when it wakes up.
def finish (wake : Wake) (drain : Drain) (listener : Listener) : Turn :=
  match wake with
  | .serving ending =>
    ⟨[wakeEntry wake], .raised (endError ending), (listener.endServing ending).release⟩
  | .dropped =>
    let turn := listener.stop drain
    ⟨wakeEntry wake :: turn.journal, .cancelled, turn.listener⟩
  | _ =>
    let turn := listener.stop drain
    ⟨wakeEntry wake :: turn.journal, turn.outcome, turn.listener⟩

-- A run that is dropped while it starts up is ended like one that is dropped later.
def run (mainThread : Bool) (bound : Except String Address) (startup : Startup) (wake : Wake) (drain : Drain)
    (listener : Listener) : Turn :=
  let (signals, taken) := listener.takeSignals mainThread
  let started := taken.start bound startup
  let ended := match started.outcome with
    | .returned => started.listener.finish wake drain
    | .cancelled => started.listener.finish .dropped drain
    | .raised refusal => ⟨[], .raised refusal, started.listener⟩
  ⟨signals ++ started.journal ++ ended.journal, ended.outcome, ended.listener.leaveSignals mainThread⟩

end Listener
end Gatehouse
