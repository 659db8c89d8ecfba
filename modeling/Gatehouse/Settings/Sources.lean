import Gatehouse.Json.Overlay
import Gatehouse.Settings.EnvFile
import Gatehouse.Settings.Machine
import Gatehouse.Text.Lower

/- Where settings come from: values given by the caller, variables of the environment, and variables of the file
   `.env`. The first of them that has a setting gives it; members are laid over those of the next source that has the
   setting. Variables are named in letters of any case. The file is read before any source is asked. -/
namespace Gatehouse

structure Sources where
  given : Members
  environment : List (String × String)
  directory : Directory
  machine : Machine

namespace Sources

def variableMark : String := "admission_"

def envFileName : String := ".env"

-- The settings whose variables hold JSON.
def documentFields : List String := ["required_annotations"]

def lowered (name : String) : String := String.ofList (name.toList.flatMap Text.lowerLetters)

abbrev Variables := List (String × Option String)

def valueOf? (assigned : Variables) (field : String) : Option String :=
  (lastOf (assigned.map fun (name, value) => (lowered name, value)) (variableMark ++ field)).join

-- A variable that holds null is as good as absent.
def settingOf (machine : Machine) (source : Source) (assigned : Variables) (field : String) :
    Except SettingsFailure (Option Json) :=
  match valueOf? assigned field with
  | none => .ok none
  | some text =>
    if documentFields.contains field then
      match machine.decode (.variable source) text with
      | .error (.exhausted message) => .error (.broken (.exhausted message))
      | .error (.failed _) => .error (.unreadable field source)
      | .ok value => .ok (if value.isNull then none else some value.collapsed)
    else .ok (some (.string text))

def settingsOf (machine : Machine) (source : Source) (assigned : Variables) :
    List String → Except SettingsFailure Members
  | [] => .ok []
  | field :: rest => do
    let value ← settingOf machine source assigned field
    let others ← settingsOf machine source assigned rest
    return match value with
      | some value => (field, value) :: others
      | none => others

def environmentVariables (sources : Sources) : Variables :=
  sources.environment.map fun (name, value) => (name, some value)

def fileText (sources : Sources) : Except Breakdown (Option String) :=
  if sources.directory.isSealed envFileName then .error (.accessRefused (Path.ofText envFileName))
  else match sources.directory.content? envFileName with
    | none => .ok none
    | some bytes =>
      match Utf8.decode bytes with
      | .ok text => .ok (some text)
      | .error failure => .error (.undecodable failure)

def fileVariables (sources : Sources) : Variables :=
  match sources.fileText with
  | .ok (some text) => EnvFile.assignments sources.environment text
  | _ => []

-- What the variables of a source say of a setting, where they can be read.
def settingIn (machine : Machine) (source : Source) (assigned : Variables) (field : String) : Option Json :=
  (settingOf machine source assigned field).toOption.join

def inEnvironment (sources : Sources) (field : String) : Option Json :=
  settingIn sources.machine .environment sources.environmentVariables field

def inFile (sources : Sources) (field : String) : Option Json :=
  settingIn sources.machine .envFile sources.fileVariables field

-- What the sources say of these settings.
def members (sources : Sources) (fields : List String) : Except SettingsFailure Members := do
  let _ ← sources.fileText.mapError .broken
  let environment ← settingsOf sources.machine .environment sources.environmentVariables fields
  let file ← settingsOf sources.machine .envFile sources.fileVariables fields
  return Json.overlayMembers file (Json.overlayMembers environment sources.given)

end Sources
end Gatehouse
