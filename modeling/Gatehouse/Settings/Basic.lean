import Gatehouse.Endpoint.Basic
import Gatehouse.Json.Writer
import Gatehouse.Pattern.Matcher
import Gatehouse.Settings.Reading
import Gatehouse.Settings.Sources

/- The settings of the listener and of the policies that it serves. They are read from their sources with defaults
   for what no source has, and are shown as JSON that can be given back. -/
namespace Gatehouse

/-- The certificate and its key are had together or not at all. -/
structure KeyPair where
  certificate : Path
  key : Path

structure ServerSettings where
  address : String
  port : Port
  keyPair : Option KeyPair
  httpOnly : Bool
  limit : ByteLimit
  grace : GracePeriod
  debug : Bool
  jsonLogs : Bool

structure Settings where
  server : ServerSettings
  ignored : Namespaces
  provider : CloudProvider
  required : List RequiredAnnotation

namespace ServerSettings

def title : String := "ServerConfig"

def defaultPort : Port := ⟨8443, by decide, by decide⟩

def defaultLimit : ByteLimit := ⟨1024 * 1024 * 1024, by decide⟩

def defaultSeconds : Binary64 := .ofNat false 15

theorem default_seconds_positive : defaultSeconds.isPositive := by decide +kernel

def defaultGrace : GracePeriod := ⟨defaultSeconds, default_seconds_positive⟩

def fieldNames : List String :=
  ["bind_address", "port", "tls_cert_path", "tls_key_path", "http_only", "limit_bytes", "grace_period", "debug",
    "json_logs"]

def keyPairOf : Option Path → Option Path → Checked (Option KeyPair)
  | some certificate, some key => .ok (some ⟨certificate, key⟩)
  | none, none => .ok none
  | _, _ => Checked.fault (.rejected "tls_cert_path and tls_key_path must be provided together")

-- The settings apart from the pair of files, which is looked at when everything else is right.
structure Parts where
  address : String
  port : Port
  certificate : Option Path
  key : Option Path
  httpOnly : Bool
  limit : ByteLimit
  grace : GracePeriod
  debug : Bool
  jsonLogs : Bool

def Parts.join (parts : Parts) : Checked ServerSettings :=
  match keyPairOf parts.certificate parts.key with
  | .ok keyPair =>
    .ok ⟨parts.address, parts.port, keyPair, parts.httpOnly, parts.limit, parts.grace, parts.debug, parts.jsonLogs⟩
  | .error issues => .error issues

def textSetting (value : Json) : Attempt String := .ok (Format.text.read value)

def switch (value : Json) : Attempt Bool := .ok (Format.boolean.read value)

def readParts (directory : Directory) (members : Members) : Attempt Parts :=
  let address := Attempt.setting members "bind_address" "0.0.0.0" textSetting
  let port := Attempt.setting members "port" defaultPort Port.read
  let certificate := Attempt.setting members "tls_cert_path" none (Path.read directory)
  let key := Attempt.setting members "tls_key_path" none (Path.read directory)
  let httpOnly := Attempt.setting members "http_only" false switch
  let limit := Attempt.setting members "limit_bytes" defaultLimit ByteLimit.read
  let grace := Attempt.setting members "grace_period" defaultGrace GracePeriod.read
  let debug := Attempt.setting members "debug" false switch
  let jsonLogs := Attempt.setting members "json_logs" false switch
  (address.both (port.both (certificate.both (key.both (httpOnly.both (limit.both (grace.both
    (debug.both jsonLogs)))))))).map fun checked =>
      checked.map fun (address, port, certificate, key, httpOnly, limit, grace, debug, jsonLogs) =>
        ⟨address, port, certificate, key, httpOnly, limit, grace, debug, jsonLogs⟩

def load (sources : Sources) : Except SettingsFailure ServerSettings := do
  let members ← sources.members fieldNames
  match readParts sources.directory members with
  | .error cause => .error (.broken cause)
  | .ok checked => (titled title (checked.bind Parts.join)).mapError .invalid

-- Whether the listener encrypts.
def tlsEnabled (settings : ServerSettings) : Bool := !settings.httpOnly && settings.keyPair.isSome

def pathValue (path : Option Path) : Json :=
  match path with
  | some path => .string path.text
  | none => .null

def members (settings : ServerSettings) : Members :=
  [("bind_address", .string settings.address),
    ("port", .int settings.port.number),
    ("tls_cert_path", pathValue (settings.keyPair.map KeyPair.certificate)),
    ("tls_key_path", pathValue (settings.keyPair.map KeyPair.key)),
    ("http_only", .bool settings.httpOnly),
    ("limit_bytes", .int settings.limit.bytes),
    ("grace_period", .float settings.grace.seconds),
    ("debug", .bool settings.debug),
    ("json_logs", .bool settings.jsonLogs)]

def document (settings : ServerSettings) : String := Json.indentedText Json.compact (.object settings.members)

end ServerSettings

namespace Settings

def title : String := "AdmissionConfig"

def fieldNames : List String :=
  ServerSettings.fieldNames ++ ["ignored_namespaces", "cloud_provider", "required_annotations"]

-- All settings, with the required annotations as they were read.
def readWith {α : Type} (directory : Directory) (members : Members) (required : Attempt α) :
    Attempt (ServerSettings.Parts × Namespaces × CloudProvider × α) :=
  let ignored := Attempt.setting members "ignored_namespaces" [] readNames
  let provider := Attempt.setting members "cloud_provider" .gcp CloudProvider.read
  (ServerSettings.readParts directory members).both (ignored.both (provider.both required))

def read (machine : Machine) (directory : Directory) (members : Members) :
    Attempt (ServerSettings.Parts × Namespaces × CloudProvider × List RequiredAnnotation) :=
  readWith directory members (Attempt.setting members "required_annotations" [] <| RequiredAnnotation.readAll machine)

def join (parts : ServerSettings.Parts × Namespaces × CloudProvider × List RequiredAnnotation) :
    Checked Settings :=
  parts.1.join.map fun server => ⟨server, parts.2.1, parts.2.2.1, parts.2.2.2⟩

def load (sources : Sources) : Except SettingsFailure Settings := do
  let members ← sources.members fieldNames
  match read sources.machine sources.directory members with
  | .error cause => .error (.broken cause)
  | .ok checked => (titled title (checked.bind join)).mapError .invalid

def members (settings : Settings) : Members :=
  settings.server.members ++
    [("ignored_namespaces", .array (settings.ignored.map .string)),
      ("cloud_provider", .string settings.provider.name),
      ("required_annotations", .object (settings.required.map fun required =>
        (required.key, .string required.text)))]

def document (settings : Settings) : String := Json.indentedText Json.compact (.object settings.members)

def requirements (settings : Settings) : Policy.Requirements :=
  settings.required.map fun required => (required.key, some required.pattern.matchesText)

end Settings
end Gatehouse
