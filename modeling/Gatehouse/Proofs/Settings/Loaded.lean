import Gatehouse.Proofs.Schema.Shape
import Gatehouse.Proofs.Settings.Sources
import Gatehouse.Settings.Basic

/- Settings that could be loaded: each is what was read of its value, or its default, and the two files of the listener
   are there together or not at all. -/
namespace Gatehouse

namespace Attempt

theorem both_ok {α β : Type} (left : Attempt α) (right : Attempt β) (pair : α × β) :
    both left right = .ok (.ok pair) ↔ left = .ok (.ok pair.1) ∧ right = .ok (.ok pair.2) := by
  cases left with
  | error cause => simp [both]
  | ok left =>
    cases right with
    | error cause => simp [both]
    | ok right => simp [both, Checked.both_ok]

-- What a setting is whose value was found, or not.
def Reads {α : Type} (found : Option Json) (absent : α) (read : Json → Attempt α) (value : α) : Prop :=
  match found with
  | none => value = absent
  | some json => read json = .ok (.ok value)

theorem setting_ok {α : Type} (members : Members) (name : String) (absent : α) (read : Json → Attempt α) (value : α) :
    setting members name absent read = .ok (.ok value) ↔ Reads (lastOf members name) absent read value := by
  rw [setting]
  cases lastOf members name with
  | none => simp [Reads, eq_comm]
  | some json =>
    cases outcome : read json with
    | error cause => simp [Reads, under, outcome]
    | ok checked => cases checked <;> simp [Reads, under, outcome, Checked.under]

theorem reads_alike {α : Type} (found : Option Json) (absent : α) (read : Json → Attempt α) (left right : α)
    (first : Reads found absent read left) (second : Reads found absent read right) : left = right := by
  cases found with
  | none => exact Eq.trans first (Eq.symm second)
  | some json =>
    have same := Eq.trans (Eq.symm first) second
    exact Except.ok.inj (Except.ok.inj same)

end Attempt

-- The file that a value names.
def Path.named? : Option Json → Option Path
  | some (.string text) => some (Path.ofText text)
  | _ => none

theorem path_reads (directory : Directory) (found : Option Json) (path : Option Path)
    (reads : Attempt.Reads found none (Path.read directory) path) :
    Path.named? found = path ∧ ∀ file, path = some file → directory.lookup file = .present := by
  cases found with
  | none =>
    cases reads
    exact ⟨rfl, nofun⟩
  | some json =>
    rw [Attempt.Reads] at reads
    unfold Path.read at reads
    cases json with
    | null =>
      cases reads
      exact ⟨rfl, nofun⟩
    | string text =>
      cases looked : directory.lookup (Path.ofText text) with
      | present =>
        simp only [looked, Except.ok.injEq] at reads
        subst reads
        refine ⟨rfl, fun file named => ?_⟩
        cases named
        exact looked
      | absent | nameTooLong | refused => simp [looked, Attempt.issue, Checked.fault] at reads
    | bool | int | float | array | object => simp [Attempt.issue, Checked.fault] at reads

-- What a switch is set to, if it is set rightly.
def switched? : Option Json → Option Bool
  | none => some false
  | some json => (Format.boolean.read json).toOption

theorem switch_reads (found : Option Json) (value : Bool)
    (reads : Attempt.Reads found false ServerSettings.switch value) : switched? found = some value := by
  cases found with
  | none => exact congrArg some reads.symm
  | some json =>
    rw [Attempt.Reads, ServerSettings.switch, Except.ok.injEq] at reads
    rw [switched?, reads]
    rfl

namespace ServerSettings

theorem key_pair_ok (certificate key : Option Path) (pair : Option KeyPair) :
    keyPairOf certificate key = .ok pair ↔ certificate = pair.map KeyPair.certificate ∧ key = pair.map KeyPair.key := by
  cases certificate <;> cases key <;> rcases pair with _ | ⟨first, second⟩ <;> simp [keyPairOf, Checked.fault]

/-- The parts of the settings as they were found among the members. -/
structure Parts.From (directory : Directory) (found : String → Option Json) (parts : Parts) : Prop where
  address : Attempt.Reads (found "bind_address") "0.0.0.0" textSetting parts.address
  port : Attempt.Reads (found "port") defaultPort Port.read parts.port
  certificate : Attempt.Reads (found "tls_cert_path") none (Path.read directory) parts.certificate
  key : Attempt.Reads (found "tls_key_path") none (Path.read directory) parts.key
  httpOnly : Attempt.Reads (found "http_only") false switch parts.httpOnly
  limit : Attempt.Reads (found "limit_bytes") defaultLimit ByteLimit.read parts.limit
  grace : Attempt.Reads (found "grace_period") defaultGrace GracePeriod.read parts.grace
  debug : Attempt.Reads (found "debug") false switch parts.debug
  jsonLogs : Attempt.Reads (found "json_logs") false switch parts.jsonLogs

theorem parts_ok (directory : Directory) (members : Members) (parts : Parts)
    (read : readParts directory members = .ok (.ok parts)) : parts.From directory (lastOf members) := by
  obtain ⟨checked, together, parted⟩ := (map_ok _ _ _).mp read
  obtain ⟨⟨address, port, certificate, key, httpOnly, limit, grace, debug, jsonLogs⟩, rfl, rfl⟩ :=
    (map_ok _ _ _).mp parted
  simp only [Attempt.both_ok, Attempt.setting_ok] at together
  obtain ⟨address, port, certificate, key, httpOnly, limit, grace, debug, jsonLogs⟩ := together
  exact ⟨address, port, certificate, key, httpOnly, limit, grace, debug, jsonLogs⟩

def parts (settings : ServerSettings) : Parts :=
  ⟨settings.address, settings.port, settings.keyPair.map KeyPair.certificate, settings.keyPair.map KeyPair.key,
    settings.httpOnly, settings.limit, settings.grace, settings.debug, settings.jsonLogs⟩

theorem join_ok (parts : Parts) (settings : ServerSettings) (joined : parts.join = .ok settings) :
    parts = settings.parts := by
  obtain ⟨address, port, certificate, key, httpOnly, limit, grace, debug, jsonLogs⟩ := parts
  rw [Parts.join] at joined
  cases paired : keyPairOf certificate key with
  | error issues => simp only [paired, reduceCtorEq] at joined
  | ok pair =>
    obtain ⟨rfl, rfl⟩ := (key_pair_ok _ _ _).mp paired
    simp only [paired, Except.ok.injEq] at joined
    rw [← joined]
    rfl

end ServerSettings

namespace Settings

/-- Settings as they were found among the members. -/
structure From (machine : Machine) (directory : Directory) (found : String → Option Json) (settings : Settings) :
    Prop where
  server : settings.server.parts.From directory found
  ignored : Attempt.Reads (found "ignored_namespaces") [] readNames settings.ignored
  provider : Attempt.Reads (found "cloud_provider") .gcp CloudProvider.read settings.provider
  required : Attempt.Reads (found "required_annotations") [] ( RequiredAnnotation.readAll machine) settings.required

theorem field_names_distinct : fieldNames.Nodup := by decide

theorem load_ok (sources : Sources) (settings : Settings) (loaded : load sources = .ok settings) :
    ∃ members, sources.members fieldNames = .ok members ∧
      settings.From sources.machine sources.directory (lastOf members) := by
  obtain ⟨members, found, loaded⟩ := (Json.bind_eq_ok _ _ _).mp loaded
  refine ⟨members, found, ?_⟩
  cases outcome : read sources.machine sources.directory members with
  | error cause => simp only [outcome, reduceCtorEq] at loaded
  | ok checked =>
    cases checked with
    | error issues => simp only [outcome, Except.bind, titled, Except.mapError, reduceCtorEq] at loaded
    | ok parts =>
      cases joined : join parts with
      | error issues => simp only [outcome, Except.bind, joined, titled, Except.mapError, reduceCtorEq] at loaded
      | ok joinedSettings =>
        simp only [outcome, Except.bind, joined, titled, Except.mapError, Except.ok.injEq] at loaded
        subst loaded
        obtain ⟨server, paired, rfl⟩ := (map_ok _ _ _).mp joined
        simp only [read, readWith, Attempt.both_ok, Attempt.setting_ok] at outcome
        obtain ⟨together, ignored, provider, required⟩ := outcome
        have same := ServerSettings.join_ok _ _ paired
        exact ⟨same ▸ ServerSettings.parts_ok _ _ _ together, ignored, provider, required⟩

end Settings
end Gatehouse
