import Gatehouse.CommandLine.Program
import Gatehouse.Http.Wire

/- The program. It serves one connection, on its standard input and output, as a supervisor hands it over; encryption
   is left to the supervisor. What it tells goes to the error output. -/
namespace Gatehouse.Main

-- Variables are looked up under the upper case of their names.
def variableName (field : String) : String := (Sources.variableMark ++ field).toUpper

def environment : IO (List (String × String)) :=
  Settings.fieldNames.filterMapM fun field => do
    let value ← IO.getEnv (variableName field)
    return value.map (variableName field, ·)

-- What is at a path. A file that may not be opened is there all the same.
def lookUp (name : String) : IO Directory := do
  try return ⟨[(name, ← IO.FS.readBinFile name)], []⟩
  catch
    | .permissionDenied _ _ _ => return ⟨[(name, ByteArray.empty)], [Path.ofText name]⟩
    | _ => return ⟨[], []⟩

def pathFields : List String := ["tls_cert_path", "tls_key_path"]

-- The files that the settings name.
def namedFiles (sources : Sources) : List String :=
  pathFields.flatMap fun field =>
    (match lastOf sources.given field with
      | some (.string text) => [text]
      | _ => []) ++
    (Sources.valueOf? sources.environmentVariables field).toList ++ (Sources.valueOf? sources.fileVariables field).toList

def entrance (arguments : List String) : IO CommandLine.Entrance := do
  let assigned ← environment
  let overrides := match CommandLine.request arguments with
    | .command _ overrides => overrides
    | _ => []
  let envFile ← lookUp Sources.envFileName
  let named ← (namedFiles ⟨overrides, assigned, envFile, .bare⟩).mapM lookUp
  let found := envFile :: named
  return ⟨arguments, assigned, ⟨found.flatMap Directory.files, found.flatMap Directory.closed⟩, .bare⟩

def tell (journal : Journal) : IO Unit :=
  journal.forM fun entry => IO.eprintln (entry.level.name ++ " " ++ entry.text)

partial def readHead (input : IO.FS.Stream) (lines : List String) : IO (List String) := do
  let line ← input.getLine
  let text := Text.trimmed line
  if text.isEmpty then return lines.reverse else readHead input (text :: lines)

partial def readBody (input : IO.FS.Stream) (length : Nat) (body : ByteArray) : IO ByteArray := do
  if length ≤ body.size then return body
  else
    let bytes ← input.read (length - body.size).toUSize
    if bytes.isEmpty then return body else readBody input length (body ++ bytes)

partial def serve (input output : IO.FS.Stream) (keep : Journal → Journal) (router : Http.Router) : IO Unit := do
  match Http.Head.ofLines? (← readHead input []) with
  | none => return
  | some head =>
    let body ← readBody input head.length ByteArray.empty
    let (told, answer) := router.handle (head.request body)
    tell (keep told)
    output.putStr answer.wireText
    output.flush
    serve input output keep router

def run (arguments : List String) : IO UInt32 := do
  let entrance ← entrance arguments
  let result := CommandLine.run (fun _ => .ok ()) entrance
  tell result.journal
  match result.output with
  | some text => IO.print text
  | none => pure ()
  match result.escaped with
  | some cause => IO.eprintln cause.message
  | none => pure ()
  match CommandLine.serviceSettings entrance with
  | some settings =>
    serve (← IO.getStdin) (← IO.getStdout) (Service.verbosityOf settings.server).keep (Service.routes settings)
  | none => pure ()
  return UInt32.ofNat result.exitCode

end Gatehouse.Main

def main (arguments : List String) : IO UInt32 := Gatehouse.Main.run arguments
