import Gatehouse.Settings.Path
import Gatehouse.Json.Basic
import Gatehouse.Text.Numeral

/- The arguments of the program: a command and its flags. A flag with a value takes the next argument, or what stands
   after an equals sign; of a flag given more than once the last counts, unless it collects its values. -/
namespace Gatehouse.CommandLine

inductive Command where
  | serve
  | showConfig
deriving DecidableEq

inductive FlagKind where
  | text
  | number
  | path
  | switch
  | collected
  | help
deriving DecidableEq

-- A flag and the setting that it overrides.
structure Flag where
  name : String
  setting : String
  kind : FlagKind
deriving DecidableEq

namespace Command

def all : List Command := [.serve, .showConfig]

def name : Command → String
  | .serve => "serve"
  | .showConfig => "show-config"

def flags : Command → List Flag
  | .serve =>
    [⟨"--host", "bind_address", .text⟩, ⟨"--port", "port", .number⟩, ⟨"--cert-path", "tls_cert_path", .path⟩,
      ⟨"--key-path", "tls_key_path", .path⟩, ⟨"--http-only", "http_only", .switch⟩,
      ⟨"--debug", "debug", .switch⟩, ⟨"--ignored-namespace", "ignored_namespaces", .collected⟩,
      ⟨"--cloud-provider", "cloud_provider", .text⟩]
  | .showConfig => [⟨"--host", "bind_address", .text⟩, ⟨"--port", "port", .number⟩]

end Command

def helpFlag : Flag := ⟨"--help", "", .help⟩

-- The flags given with their values, in order, and whether anything else stood among them.
structure Given where
  values : List (Flag × String)
  extra : Bool

def isFlagLike (argument : String) : Bool := argument.toList.head? == some '-' && argument.length != 1

-- The name of a flag, and the value that is attached to it.
def parts (argument : String) : String × Option String :=
  let letters := argument.toList
  let name := letters.takeWhile (· != '=')
  match letters.drop name.length with
  | [] => (argument, none)
  | _ :: value => (String.ofList name, some (String.ofList value))

def takesValue (flag : Flag) : Bool := flag.kind != .switch && flag.kind != .help

def Given.with (given : Given) (flag : Flag) (value : String) : Given :=
  { given with values := (flag, value) :: given.values }

-- Reads the arguments of a command; none when a flag is unknown, lacks its value or has one too many.
def readFlags (flags : List Flag) : List String → Option Given
  | [] => some ⟨[], false⟩
  | argument :: rest =>
    if argument == "--" then some ⟨[], !rest.isEmpty⟩
    else if isFlagLike argument then
      let (name, attached) := parts argument
      match flags.find? fun flag => flag.name == name with
      | none => none
      | some flag =>
        if takesValue flag then
          match attached with
          | some value => (readFlags flags rest).map (·.with flag value)
          | none =>
            match rest with
            | value :: later => (readFlags flags later).map (·.with flag value)
            | [] => none
        else if attached.isSome then none
        else (readFlags flags rest).map (·.with flag "")
    else (readFlags flags rest).map fun given => { given with extra := true }

def digitLimit : Nat := 4300

def numberOf? (text : String) : Option Int :=
  if digitLimit < (text.toList.filter fun c => (Text.digitValue? c).isSome).length then none
  else Text.integer? text.toList

-- The values of a flag, as the setting takes them.
def settingOf? (flag : Flag) (values : List String) : Option (Option Json) :=
  match flag.kind, values.getLast? with
  | _, none => some none
  | .text, some text => some (some (.string text))
  | .number, some text => (numberOf? text).map fun number => some (.int number)
  | .path, some text => some (some (.string (Path.ofText text).text))
  | .switch, some _ => some (some (.bool true))
  | .collected, some _ => some (some (.array (values.map .string)))
  | .help, some _ => some none

def valuesOf (given : Given) (flag : Flag) : List String :=
  (given.values.filter fun (other, _) => other == flag).map Prod.snd

-- The settings that the flags override; a flag that is not given overrides none.
def overrides? (given : Given) : List Flag → Option Members
  | [] => some []
  | flag :: rest => do
    let value ← settingOf? flag (valuesOf given flag)
    let others ← overrides? given rest
    return match value with
      | some value => (flag.setting, value) :: others
      | none => others

inductive Request where
  | help
  | misuse
  | command (which : Command) (overrides : Members)

def helpAsked (given : Given) : Bool := given.values.any fun (flag, _) => flag == helpFlag

def commandRequest (which : Command) (arguments : List String) : Request :=
  match readFlags (helpFlag :: which.flags) arguments with
  | none => .misuse
  | some given =>
    if helpAsked given then .help
    else if given.extra then .misuse
    else
      match overrides? given which.flags with
      | none => .misuse
      | some overrides => .command which overrides

-- The flags before the command: only the one that asks for help.
def leadingFlags : List String → Option (Bool × List String)
  | [] => some (false, [])
  | argument :: rest =>
    if argument == "--" then some (false, rest)
    else if isFlagLike argument then
      if argument == helpFlag.name then (leadingFlags rest).map fun (_, rest) => (true, rest) else none
    else some (false, argument :: rest)

def request (arguments : List String) : Request :=
  match leadingFlags arguments with
  | none => .misuse
  | some (true, _) => .help
  | some (false, []) => .misuse
  | some (false, name :: rest) =>
    match Command.all.find? fun command => command.name == name with
    | some which => commandRequest which rest
    | none =>
      match leadingFlags (name :: rest) with
      | some (true, _) => .help
      | _ => .misuse

end Gatehouse.CommandLine
