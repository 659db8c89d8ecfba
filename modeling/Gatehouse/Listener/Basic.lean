import Gatehouse.Journal
import Gatehouse.Json.Plain
import Gatehouse.Refusal

/- The listener of the webhook: what it holds, and the sections of the calls on it. A call runs in sections; between
   them it waits, while the serving and other calls go on. Each section is a function on the listener. -/
namespace Gatehouse

inductive Signal where
  | interrupt
  | terminate
deriving DecidableEq

namespace Signal

def all : List Signal := [.interrupt, .terminate]

def name : Signal → String
  | .interrupt => "SIGINT"
  | .terminate => "SIGTERM"

end Signal

-- The files with which a listener encrypts.
structure TlsFiles where
  certificate : String
  key : String
  authorities : Option String
deriving DecidableEq

structure Setup where
  host : String
  port : Int
  tls : Option TlsFiles
  grace : Binary64
  debug : Bool
deriving DecidableEq

namespace Setup

def scheme (setup : Setup) : String := if setup.tls.isSome then "https" else "http"

def logLevel (setup : Setup) : String := if setup.debug then "debug" else "info"

def graceText (setup : Setup) : String := (Json.float setup.grace).plain

-- What is told when a listener is set up.
def told (setup : Setup) : Journal :=
  if setup.tls.isSome then []
  else [⟨.warning, "No TLS configuration was provided; serving plaintext HTTP, which prevents the webhook from " ++
    "being reached as an in-cluster Service"⟩]

end Setup

-- How the serving ended: as it should, by giving up with a status, or by a failure.
inductive Ending where
  | finished
  | exited (status : Int)
  | failed (failure : Foreign)
deriving DecidableEq

inductive Serving where
  | going
  | ended (ending : Ending)
deriving DecidableEq

structure Engine where
  ready : Bool
  leaving : Bool
  forced : Bool
deriving DecidableEq

structure Address where
  host : String
  port : Int
deriving DecidableEq

structure Socket where
  address : Address
  isOpen : Bool
deriving DecidableEq

/-- A handler of a signal belongs to one run; runs are numbered as they begin. -/
structure Listener where
  setup : Setup
  engine : Option Engine
  serving : Option Serving
  socket : Option Socket
  handlers : List (Signal × Nat)
  runs : Nat
deriving DecidableEq

namespace Listener

def idle (setup : Setup) : Listener := ⟨setup, none, none, none, [], 0⟩

def running (listener : Listener) : Bool := listener.serving == some .going

def ready (listener : Listener) : Bool := listener.running && listener.engine.any Engine.ready

-- The address that is bound; that of a socket that has been closed cannot be told.
def address (listener : Listener) : Option (Option Address) :=
  listener.socket.map fun socket => if socket.isOpen then some socket.address else none

def release (listener : Listener) : Listener := { listener with engine := none, serving := none, socket := none }

/- What the serving does of itself -/

def becomeReady (listener : Listener) : Listener :=
  { listener with engine := listener.engine.map fun engine => { engine with ready := true } }

def endServing (ending : Ending) (listener : Listener) : Listener :=
  if listener.running then
    { listener with
      serving := some (.ended ending)
      socket := listener.socket.map fun socket => { socket with isOpen := false } }
  else listener

/- Sections of a start -/

def alreadyRunning : Refusal := .foreign (.runtimeError "the server is already running")

def bindError (setup : Setup) (reason : String) : Refusal :=
  .listener ("could not bind to " ++ setup.host ++ ":" ++ toString setup.port ++ ": " ++ reason)

-- Binds the socket and begins to serve; `bound` is what binding gives.
def startBegin (bound : Except String Address) (listener : Listener) : Except Refusal Unit × Listener :=
  if listener.running then (.error alreadyRunning, listener)
  else
    let built := { listener with engine := some ⟨false, false, false⟩ }
    match bound with
    | .error reason => (.error (bindError listener.setup reason), built)
    | .ok address => (.ok (), { built with socket := some ⟨address, true⟩, serving := some .going })

def endError : Ending → Refusal
  | .finished => .listener "the server exited unexpectedly"
  | .exited status => .listener ("the server exited with status " ++ toString status)
  | .failed failure => .listener ("the server exited: " ++ failure.message)

def listening (setup : Setup) (address : Address) : Entry :=
  ⟨.info, "admission control listening on '" ++ setup.scheme ++ "://" ++ address.host ++ ":" ++
    toString address.port ++ "'"⟩

def missingEngine : Refusal := .foreign ⟨"AttributeError", some "'NoneType' object has no attribute 'started'", false⟩

-- The section of a start that looks whether the serving is ready; without an outcome it waits on.
def startPoll (listener : Listener) : Journal × Option (Except Refusal Unit) × Listener :=
  match listener.engine, listener.serving with
  | none, _ => ([], some (.error missingEngine), listener)
  | _, some (.ended ending) => ([], some (.error (endError ending)), listener.release)
  | some engine, _ =>
    if engine.ready then
      match listener.socket with
      | some socket => ([listening listener.setup socket.address], some (.ok ()), listener)
      | none => ([], some (.ok ()), listener)
    else ([], none, listener)

/- Sections of a stop -/

-- Asks the serving to end; false when there is nothing to wait for.
def stopBegin (listener : Listener) : Journal × Bool × Listener :=
  match listener.engine, listener.serving with
  | some engine, some .going =>
    ([⟨.info, "server shutting down"⟩], true, { listener with engine := some { engine with leaving := true } })
  | some _, some (.ended _) => ([], false, listener.release)
  | _, _ => ([], false, listener)

def stopped : Entry := ⟨.info, "server stopped"⟩

-- The serving that a stop waited for is over.
def stopEnd (ending : Ending) (listener : Listener) : Journal × Except Refusal Unit × Listener :=
  match ending with
  | .finished => ([stopped], .ok (), listener.release)
  | .exited status =>
    ([⟨.error, "listener error during shutdown: " ++ (endError (.exited status)).message⟩, stopped], .ok (),
      listener.release)
  | .failed failure => ([], .error (.foreign failure), listener.release)

-- The grace period is over before the serving is.
def stopForce (listener : Listener) : Journal × Listener :=
  ([⟨.warning, "In-flight requests did not complete within " ++ listener.setup.graceText ++ "s, forcing close"⟩],
    { listener with engine := listener.engine.map fun engine => { engine with forced := true } })

/- Sections of a run -/

-- Takes the signals over, where the process lets it.
def takeSignals (mainThread : Bool) (listener : Listener) : Journal × Listener :=
  let run := listener.runs
  if mainThread then
    ([], { listener with handlers := Signal.all.map (·, run), runs := run + 1 })
  else
    (Signal.all.map fun signal => ⟨.debug, "Could not install a handler for " ++ signal.name⟩,
      { listener with runs := run + 1 })

-- A run that took the signals over leaves no handler behind, whosever it is.
def leaveSignals (mainThread : Bool) (listener : Listener) : Listener :=
  if mainThread then { listener with handlers := [] } else listener

-- What a run that serves wakes up to.
inductive Wake where
  | serving (ending : Ending)
  | signal (signal : Signal)
  | asked
  | dropped
deriving DecidableEq

def wakeEntry : Wake → Entry
  | .serving ending => ⟨.error, "listener error: " ++ (endError ending).message⟩
  | .signal signal => ⟨.info, "signal received: " ++ signal.name⟩
  | .asked => ⟨.info, "cancellation received"⟩
  | .dropped => ⟨.info, "cancellation received: the serving task was cancelled"⟩

end Listener
end Gatehouse
