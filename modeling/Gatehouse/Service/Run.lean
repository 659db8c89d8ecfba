import Gatehouse.Journal.Threshold
import Gatehouse.Listener.Basic
import Gatehouse.Service.Endpoints

/- A run of the service: the settings are taken, the routes are set up and the listener serves them until it ends.
   The listener is given by what it answers to its setup. -/
namespace Gatehouse.Service

inductive Failure where
  | settings (cause : SettingsFailure)
  | listener (refusal : Refusal)

def Failure.message : Failure → String
  | .settings cause => cause.message
  | .listener refusal => refusal.message

structure Run where
  served : List Setup
  journal : Journal
  outcome : Except Failure Unit

def failureEntry (failure : Failure) : Entry :=
  ⟨.error, "Failed to start admission webhook service: " ++ failure.message⟩

def setupOf (settings : ServerSettings) : Setup where
  host := settings.address
  port := settings.port.number
  tls :=
    if settings.httpOnly then none
    else settings.keyPair.map fun pair => ⟨pair.certificate.text, pair.key.text, none⟩
  grace := settings.grace.seconds
  debug := settings.debug

def verbosityOf (settings : ServerSettings) : Verbosity := ⟨settings.debug, settings.jsonLogs⟩

def debugEntries (settings : Settings) : Journal :=
  if settings.server.debug then
    [⟨.debug, "Debug mode enabled"⟩, ⟨.debug, "Configuration: " ++ settings.document⟩]
  else []

def securityEntries (settings : ServerSettings) : Journal :=
  if settings.tlsEnabled then [] else [⟨.warning, "TLS certificates not configured, running in insecure mode"⟩]

def encryptionEntries (setup : Setup) : Journal :=
  if setup.tls.isSome then [⟨.info, "TLS enabled"⟩] else []

/-- Everything that is told before the listener serves. -/
def preparation (settings : Settings) : Journal :=
  let setup := setupOf settings.server
  (verbosityOf settings.server).configured ++ debugEntries settings ++ securityEntries settings.server ++
    registered settings ++ encryptionEntries setup ++ setup.told

def runWith (listen : Setup → Except Refusal Unit) (settings : Settings) : Run :=
  let setup := setupOf settings.server
  let keep := (verbosityOf settings.server).keep
  match listen setup with
  | .ok () => ⟨[setup], keep (preparation settings), .ok ()⟩
  | .error refusal =>
    ⟨[setup], keep (preparation settings ++ [failureEntry (.listener refusal)]), .error (.listener refusal)⟩

-- A run that takes its settings from their sources.
def runFrom (listen : Setup → Except Refusal Unit) (sources : Sources) : Run :=
  match Settings.load sources with
  | .ok settings => runWith listen settings
  | .error cause => ⟨[], [failureEntry (.settings cause)], .error (.settings cause)⟩

end Gatehouse.Service
