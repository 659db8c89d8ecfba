import Gatehouse.Json.Plain
import Gatehouse.Schema.Issue
import Gatehouse.Settings.Path
import Gatehouse.Text.Utf8

/- Why settings cannot be had: a source that cannot be read, values that a report lists, or a breakdown, which ends
   the reading at once. -/
namespace Gatehouse

inductive Source where
  | environment
  | envFile
deriving DecidableEq

def Source.name : Source → String
  | .environment => "EnvSettingsSource"
  | .envFile => "DotEnvSettingsSource"

inductive Breakdown where
  | notMembers (value : Json)
  | notPattern (value : Json)
  | repeatTooLarge
  | nameTooLong (path : Path)
  | accessRefused (path : Path)
  | undecodable (failure : Utf8.Failure)
  | exhausted (message : String)

def Breakdown.message : Breakdown → String
  | .notMembers value => "'" ++ value.kindName ++ "' object has no attribute 'items'"
  | .notPattern value =>
    match value with
    | .array _ | .object _ => "unhashable type: '" ++ value.kindName ++ "'"
    | _ => "first argument must be string or compiled pattern"
  | .repeatTooLarge => "the repetition number is too large"
  | .nameTooLong path => "[Errno 36] File name too long: " ++ Text.quoted path.text
  | .accessRefused path => "[Errno 13] Permission denied: " ++ Text.quoted path.text
  | .undecodable failure => failure.message
  | .exhausted message => message

inductive SettingsFailure where
  | unreadable (field : String) (source : Source)
  | invalid (report : Report)
  | broken (cause : Breakdown)

def SettingsFailure.message : SettingsFailure → String
  | .unreadable field source =>
    "error parsing value for field \"" ++ field ++ "\" from source \"" ++ source.name ++ "\""
  | .invalid report => report.text
  | .broken cause => cause.message

end Gatehouse
