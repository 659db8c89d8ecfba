import Gatehouse.CommandLine.Arguments
import Gatehouse.Service.Run

/- The program: it shows the settings or runs the service, and ends with an exit code. -/
namespace Gatehouse.CommandLine

-- How the program was entered: its arguments, the environment, the directory, and what it runs on.
structure Entrance where
  arguments : List String
  environment : List (String × String)
  directory : Directory
  machine : Machine

structure Result where
  exitCode : Nat
  served : List Setup
  journal : Journal
  output : Option String
  -- A failure that the program does not handle.
  escaped : Option SettingsFailure

def Result.quiet (exitCode : Nat) : Result := ⟨exitCode, [], [], none, none⟩

def Result.failed (message : String) : Result := ⟨1, [], [⟨.error, message⟩], none, none⟩

def misuseCode : Nat := 2

def withSettings (entrance : Entrance) (overrides : Members) (next : Settings → Result) : Result :=
  match Settings.load ⟨overrides, entrance.environment, entrance.directory, entrance.machine⟩ with
  | .ok settings => next settings
  | .error (.invalid report) => Result.failed ("Invalid configuration:\n" ++ report.text)
  | .error cause => { Result.quiet 1 with escaped := some cause }

def endEntry : Service.Failure → Entry
  | .listener (.listener text) => ⟨.error, "Admission webhook server stopped: " ++ text⟩
  | failure => ⟨.error, "Admission webhook server failed:\n" ++ failure.message⟩

def serve (listen : Setup → Except Refusal Unit) (settings : Settings) : Result :=
  if !settings.server.httpOnly && !settings.server.tlsEnabled then
    Result.failed "--cert-path and --key-path are required unless --http-only is set"
  else
    let run := Service.runWith listen settings
    match run.outcome with
    | .ok () => ⟨0, run.served, run.journal, none, none⟩
    | .error failure => ⟨1, run.served, run.journal ++ [endEntry failure], none, none⟩

def showConfig (settings : Settings) : Result :=
  { Result.quiet 0 with output := some (settings.document ++ "\n") }

def run (listen : Setup → Except Refusal Unit) (entrance : Entrance) : Result :=
  match request entrance.arguments with
  | .help => Result.quiet 0
  | .misuse => Result.quiet misuseCode
  | .command .serve overrides => withSettings entrance overrides (serve listen)
  | .command .showConfig overrides => withSettings entrance overrides showConfig

-- The settings with which the service is to run, if it is.
def serviceSettings (entrance : Entrance) : Option Settings :=
  match request entrance.arguments with
  | .command .serve overrides =>
    match Settings.load ⟨overrides, entrance.environment, entrance.directory, entrance.machine⟩ with
    | .ok settings => if (serve (fun _ => .ok ()) settings).exitCode = 0 then some settings else none
    | .error _ => none
  | _ => none

end Gatehouse.CommandLine
