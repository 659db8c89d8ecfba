import Gatehouse.Proofs.Settings.Precedence
import Gatehouse.Proofs.Settings.Required

/- Why settings are not had. A value that is not right is reported with its place; but a file of variables that is no
   text or may not be opened, variables that are not JSON where they should be, files that cannot be looked for, some
   values of the required annotations and a stack that is too small end the loading without a report. -/
namespace Gatehouse

namespace Sources

def variablesOf (sources : Sources) : Source → Variables
  | .environment => sources.environmentVariables
  | .envFile => sources.fileVariables

-- What ends the reading of the sources, before any setting is looked at.
inductive Unread (sources : Sources) : SettingsFailure → Prop where
  | closed (shut : sources.directory.isSealed envFileName = true) :
    Unread sources (.broken (.accessRefused (Path.ofText envFileName)))
  | undecodable (bytes : ByteArray) (failure : Utf8.Failure)
    (found : sources.directory.content? envFileName = some bytes)
    (undecoded : Utf8.decode bytes = .error failure) : Unread sources (.broken (.undecodable failure))
  | unparsed (source : Source) (text : String) (failure : Json.Failure)
    (assigned : valueOf? (sources.variablesOf source) "required_annotations" = some text)
    (undecoded : sources.machine.decode (.variable source) text = .error (.failed failure)) :
    Unread sources (.unreadable "required_annotations" source)
  | exhausted (source : Source) (text message : String)
    (assigned : valueOf? (sources.variablesOf source) "required_annotations" = some text)
    (ended : sources.machine.decode (.variable source) text = .error (.exhausted message)) :
    Unread sources (.broken (.exhausted message))

-- Without variables and a file of them nothing is left unread.
theorem unread_bare (given : Members) (machine : Machine) (cause : SettingsFailure) :
    ¬ Unread ⟨given, [], ⟨[], []⟩, machine⟩ cause := by
  intro unread
  cases unread with
  | closed shut => cases shut
  | undecodable bytes failure found => cases found
  | unparsed source text failure assigned => cases source <;> cases assigned
  | exhausted source text message assigned => cases source <;> cases assigned

theorem file_error (sources : Sources) (cause : Breakdown) (failed : sources.fileText = .error cause) :
    sources.Unread (.broken cause) := by
  rw [fileText] at failed
  split at failed
  · rename_i shut
    cases failed
    exact .closed shut
  · split at failed
    · cases failed
    · rename_i bytes found
      cases decoded : Utf8.decode bytes with
      | ok text =>
        rw [decoded] at failed
        cases failed
      | error failure =>
        rw [decoded] at failed
        cases failed
        exact .undecodable bytes failure found decoded

theorem setting_error (sources : Sources) (source : Source) (field : String) (cause : SettingsFailure)
    (failed : settingOf sources.machine source (sources.variablesOf source) field = .error cause) :
    sources.Unread cause := by
  rw [settingOf] at failed
  cases assigned : valueOf? (sources.variablesOf source) field with
  | none =>
    rw [assigned] at failed
    cases failed
  | some text =>
    simp only [assigned] at failed
    split at failed
    · rename_i written
      obtain rfl : field = "required_annotations" := by simpa [documentFields] using written
      cases read : sources.machine.decode (.variable source) text with
      | ok json => simp only [read, reduceCtorEq] at failed
      | error halt =>
        cases halt with
        | failed failure =>
          simp only [read] at failed
          cases failed
          exact .unparsed source text failure assigned read
        | exhausted message =>
          simp only [read] at failed
          cases failed
          exact .exhausted source text message assigned read
    · cases failed

theorem settings_error (sources : Sources) (source : Source) (fields : List String) (cause : SettingsFailure)
    (failed : settingsOf sources.machine source (sources.variablesOf source) fields = .error cause) :
    sources.Unread cause := by
  induction fields with
  | nil => cases failed
  | cons field rest ih =>
    rw [settingsOf] at failed
    cases first : settingOf sources.machine source (sources.variablesOf source) field with
    | error found =>
      rw [first] at failed
      cases failed
      exact setting_error sources source field cause first
    | ok value =>
      cases later : settingsOf sources.machine source (sources.variablesOf source) rest with
      | error found =>
        rw [first, later] at failed
        cases failed
        exact ih later
      | ok others =>
        rw [first, later] at failed
        cases failed

theorem members_error (sources : Sources) (cause : SettingsFailure)
    (failed : sources.members Settings.fieldNames = .error cause) : sources.Unread cause := by
  rw [members] at failed
  cases text : sources.fileText with
  | error broken =>
    rw [text] at failed
    cases failed
    exact file_error sources broken text
  | ok text' =>
    rw [text] at failed
    cases environment :
        settingsOf sources.machine .environment sources.environmentVariables Settings.fieldNames with
    | error found =>
      rw [environment] at failed
      cases failed
      exact settings_error sources .environment _ _ environment
    | ok entries =>
      cases file : settingsOf sources.machine .envFile sources.fileVariables Settings.fieldNames with
      | error found =>
        rw [environment, file] at failed
        cases failed
        exact settings_error sources .envFile _ _ file
      | ok others =>
        rw [environment, file] at failed
        cases failed

-- The settings of sources that can be read are those of variables that can be read.
theorem members_settings (sources : Sources) (given : (keysOf sources.given).Nodup) (members : Members)
    (read : sources.members Settings.fieldNames = .ok members) (source : Source) :
    ∃ value, settingOf sources.machine source (sources.variablesOf source) "required_annotations" = .ok value := by
  obtain ⟨environment, file, fromEnvironment, fromFile, _⟩ :=
    members_entries sources _ Settings.field_names_distinct given members read "required_annotations" (by decide)
  cases source with
  | environment => exact ⟨environment, fromEnvironment⟩
  | envFile => exact ⟨file, fromFile⟩

theorem members_file (sources : Sources) (fields : List String) (members : Members)
    (read : sources.members fields = .ok members) : ∃ text, sources.fileText = .ok text := by
  obtain ⟨text, found, _⟩ := (Json.bind_eq_ok _ _ _).mp read
  cases told : sources.fileText with
  | ok text => exact ⟨text, rfl⟩
  | error cause =>
    rw [told] at found
    cases found

theorem read_whole (sources : Sources) (given : (keysOf sources.given).Nodup) (members : Members)
    (read : sources.members Settings.fieldNames = .ok members) (cause : SettingsFailure) : ¬ sources.Unread cause := by
  obtain ⟨content, told⟩ := members_file sources _ members read
  have settings := members_settings sources given members read
  intro unread
  cases unread with
  | closed shut =>
    rw [fileText, if_pos shut] at told
    cases told
  | undecodable bytes failure found undecoded =>
    rw [fileText] at told
    split at told
    · cases told
    · simp only [found, undecoded, reduceCtorEq] at told
  | unparsed source text failure assigned undecoded =>
    obtain ⟨value, set⟩ := settings source
    simp [settingOf, assigned, documentFields, undecoded] at set
  | exhausted source text message assigned ended =>
    obtain ⟨value, set⟩ := settings source
    simp [settingOf, assigned, documentFields, ended] at set

theorem members_read (sources : Sources) (given : (keysOf sources.given).Nodup) :
    (∃ members, sources.members Settings.fieldNames = .ok members) ↔ ∀ cause, ¬ sources.Unread cause := by
  constructor
  · rintro ⟨members, read⟩
    exact read_whole sources given members read
  · intro readable
    cases read : sources.members Settings.fieldNames with
    | ok members => exact ⟨members, rfl⟩
    | error cause => exact absurd (members_error sources cause read) (readable cause)

end Sources

theorem map_failed {ε α β : Type} (look : α → β) (outcome : Except ε α) (failure : ε) :
    outcome.map look = .error failure ↔ outcome = .error failure := by
  cases outcome <;> simp [Except.map]

namespace Attempt

def Broken {α : Type} (attempt : Attempt α) : Prop := ∃ cause, attempt = .error cause

theorem both_broken {α β : Type} (left : Attempt α) (right : Attempt β) :
    (both left right).Broken ↔ left.Broken ∨ right.Broken := by
  cases left <;> cases right <;> simp [both, Broken]

theorem map_broken {α β : Type} (attempt : Attempt α) (look : Checked α → Checked β) :
    Broken (Except.map look attempt) ↔ attempt.Broken := by
  cases attempt <;> simp [Broken, Except.map]

theorem setting_broken {α : Type} (members : Members) (name : String) (absent : α) (read : Json → Attempt α) :
    (setting members name absent read).Broken ↔ ∃ json, lastOf members name = some json ∧ (read json).Broken := by
  rw [setting]
  cases lastOf members name with
  | none => simp [Broken]
  | some json => cases outcome : read json <;> simp [Broken, under, outcome]

-- A setting whose reading always comes to an end.
theorem steady_setting {α : Type} (members : Members) (name : String) (absent : α) (read : Json → Attempt α)
    (steady : ∀ json, ¬ (read json).Broken) : ¬ (setting members name absent read).Broken := by
  rw [setting_broken]
  rintro ⟨json, _, broken⟩
  exact steady json broken

end Attempt

theorem port_steady (json : Json) : ¬ (Port.read json).Broken := by
  rintro ⟨cause, broken⟩
  unfold Port.read at broken
  split at broken
  · cases broken
  · split at broken
    · split at broken <;> cases broken
    · cases broken

theorem limit_steady (json : Json) : ¬ (ByteLimit.read json).Broken := by
  rintro ⟨cause, broken⟩
  unfold ByteLimit.read at broken
  split at broken
  · cases broken
  · split at broken <;> cases broken

theorem grace_steady (json : Json) : ¬ (GracePeriod.read json).Broken := by
  rintro ⟨cause, broken⟩
  unfold GracePeriod.read at broken
  split at broken
  · cases broken
  · split at broken <;> cases broken

theorem names_steady (json : Json) : ¬ (readNames json).Broken := by
  rintro ⟨cause, broken⟩
  unfold readNames at broken
  split at broken <;> cases broken

theorem provider_steady (json : Json) : ¬ (CloudProvider.read json).Broken := by
  rintro ⟨cause, broken⟩
  unfold CloudProvider.read at broken
  split at broken <;> cases broken

-- A file that cannot be looked for.
def Directory.Unreachable (directory : Directory) (text : String) : Prop :=
  directory.lookup (Path.ofText text) = .nameTooLong ∨ directory.lookup (Path.ofText text) = .refused

theorem path_broken (directory : Directory) (json : Json) : (Path.read directory json).Broken ↔
    ∃ text, json = .string text ∧ directory.Unreachable text := by
  cases json with
  | string text =>
    cases looked : directory.lookup (Path.ofText text) <;>
      simp [Path.read, looked, Attempt.Broken, Attempt.issue, Directory.Unreachable]
  | null | bool | int | float | array | object => simp [Path.read, Attempt.Broken, Attempt.issue]

-- A file of the listener is named that cannot be looked for.
def UnreachableFile (directory : Directory) (found : String → Option Json) : Prop :=
  ∃ field ∈ ["tls_cert_path", "tls_key_path"], ∃ text, found field = some (.string text) ∧ directory.Unreachable text

theorem parts_broken (directory : Directory) (members : Members) :
    (ServerSettings.readParts directory members).Broken ↔ UnreachableFile directory (lastOf members) := by
  rw [ServerSettings.readParts, Attempt.map_broken]
  simp only [Attempt.both_broken]
  have address := Attempt.steady_setting members "bind_address" "0.0.0.0" ServerSettings.textSetting nofun
  have port := Attempt.steady_setting members "port" ServerSettings.defaultPort Port.read port_steady
  have httpOnly := Attempt.steady_setting members "http_only" false ServerSettings.switch nofun
  have limit := Attempt.steady_setting members "limit_bytes" ServerSettings.defaultLimit ByteLimit.read limit_steady
  have grace := Attempt.steady_setting members "grace_period" ServerSettings.defaultGrace GracePeriod.read grace_steady
  have debug := Attempt.steady_setting members "debug" false ServerSettings.switch nofun
  have jsonLogs := Attempt.steady_setting members "json_logs" false ServerSettings.switch nofun
  simp only [address, port, httpOnly, limit, grace, debug, jsonLogs, Attempt.setting_broken, path_broken,
    UnreachableFile]
  constructor
  · rintro (never | never | ⟨_, found, text, rfl, lost⟩ | ⟨_, found, text, rfl, lost⟩ | never | never | never |
      never | never)
    · cases never
    · cases never
    · exact ⟨"tls_cert_path", by simp, text, found, lost⟩
    · exact ⟨"tls_key_path", by simp, text, found, lost⟩
    all_goals cases never
  · rintro ⟨field, member, text, found, lost⟩
    simp only [List.mem_cons, List.not_mem_nil, or_false] at member
    rcases member with rfl | rfl
    · exact .inr (.inr (.inl ⟨_, found, text, rfl, lost⟩))
    · exact .inr (.inr (.inr (.inl ⟨_, found, text, rfl, lost⟩)))

theorem RequiredAnnotation.broken_breaks (machine : Machine) (json : Json) :
    (readAll machine json).Broken ↔ ∃ cause, Breaks machine json cause :=
  exists_congr fun cause => read_all_broken machine json cause

namespace Settings

theorem read_broken (machine : Machine) (directory : Directory) (members : Members) :
    (read machine directory members).Broken ↔
      UnreachableFile directory (lastOf members) ∨ ∃ value, lastOf members "required_annotations" = some value ∧
        ∃ cause, RequiredAnnotation.Breaks machine value cause := by
  have ignored := Attempt.steady_setting members "ignored_namespaces" [] readNames names_steady
  have provider := Attempt.steady_setting members "cloud_provider" .gcp CloudProvider.read provider_steady
  rw [read, readWith]
  simp only [Attempt.both_broken, parts_broken, ignored, provider, false_or, Attempt.setting_broken,
    RequiredAnnotation.broken_breaks]

theorem load_broken (sources : Sources) (members : Members) (cause : Breakdown)
    (found : sources.members fieldNames = .ok members)
    (broken : read sources.machine sources.directory members = .error cause) :
    load sources = .error (.broken cause) := by
  simp only [load, found, bind, Except.bind, broken]

theorem load_checked (sources : Sources) (members : Members)
    (checked : Checked (ServerSettings.Parts × Namespaces × CloudProvider × List RequiredAnnotation))
    (found : sources.members fieldNames = .ok members)
    (came : read sources.machine sources.directory members = .ok checked) :
    load sources = (titled title (checked.bind join)).mapError .invalid := by
  rw [load, found]
  simp only [bind, Except.bind, came]

theorem load_unread (sources : Sources) (cause : SettingsFailure) (failed : sources.members fieldNames = .error cause) :
    load sources = .error cause := by
  rw [load, failed]
  rfl

/-- What ends the loading without a report. -/
inductive Unreported (sources : Sources) : Prop where
  | unread (cause : SettingsFailure) (unread : sources.Unread cause)
  | file (unreachable : UnreachableFile sources.directory sources.gathered)
  | required (value : Json) (cause : Breakdown) (said : sources.gathered "required_annotations" = some value)
    (breaks : RequiredAnnotation.Breaks sources.machine value cause)

-- The failure is not one that a report tells.
def Escapes (outcome : Except SettingsFailure Settings) : Prop :=
  ∃ cause, outcome = .error cause ∧ ∀ report, cause ≠ .invalid report

theorem gathered_broken (sources : Sources) (members : Members) (given : (keysOf sources.given).Nodup)
    (found : sources.members fieldNames = .ok members) : (read sources.machine sources.directory members).Broken ↔
      UnreachableFile sources.directory sources.gathered ∨
        ∃ value, sources.gathered "required_annotations" = some value ∧
          ∃ cause, RequiredAnnotation.Breaks sources.machine value cause := by
  have same := sources.members_gathered fieldNames field_names_distinct given members found
  have certificate := same "tls_cert_path" (by decide)
  have key := same "tls_key_path" (by decide)
  have required := same "required_annotations" (by decide)
  simp only [read_broken, UnreachableFile, List.mem_cons, List.not_mem_nil, or_false, exists_eq_or_imp, exists_eq_left,
    certificate, key, required]

theorem load_escapes (sources : Sources) (given : (keysOf sources.given).Nodup) :
    Escapes (load sources) ↔ Unreported sources := by
  cases found : sources.members fieldNames with
  | error cause =>
    have unread := sources.members_error cause found
    have unreported : ∀ report, cause ≠ .invalid report := by
      rintro report rfl
      cases unread
    exact iff_of_true ⟨_, load_unread sources _ found, unreported⟩ (.unread cause unread)
  | ok members =>
    have readable := (sources.members_read given).mp ⟨members, found⟩
    have broken := gathered_broken sources members given found
    cases came : read sources.machine sources.directory members with
    | error cause =>
      refine iff_of_true ⟨_, load_broken sources members cause found came, nofun⟩ ?_
      rcases broken.mp ⟨cause, came⟩ with unreachable | ⟨value, said, cause, breaks⟩
      · exact .file unreachable
      · exact .required value cause said breaks
    | ok checked =>
      have whole : ¬ (read sources.machine sources.directory members).Broken := by
        rintro ⟨cause, broken⟩
        cases came.symm.trans broken
      refine iff_of_false ?_ ?_
      · rintro ⟨cause, failed, unreported⟩
        rw [load_checked sources members checked found came] at failed
        cases outcome : checked.bind join with
        | ok settings =>
          rw [outcome] at failed
          cases failed
        | error issues =>
          rw [outcome] at failed
          cases failed
          exact unreported _ rfl
      · rintro (⟨cause, unread⟩ | unreachable | ⟨value, cause, said, breaks⟩)
        · exact readable cause unread
        · exact whole (broken.mpr (.inl unreachable))
        · exact whole (broken.mpr (.inr ⟨value, said, cause, breaks⟩))

/- Required annotations among settings that are otherwise right -/

/-- All settings but the required annotations, as they were found. -/
structure Otherwise (directory : Directory) (found : String → Option Json) (server : ServerSettings)
    (ignored : Namespaces) (provider : CloudProvider) : Prop where
  server : server.parts.From directory found
  ignored : Attempt.Reads (found "ignored_namespaces") [] readNames ignored
  provider : Attempt.Reads (found "cloud_provider") .gcp CloudProvider.read provider

theorem Otherwise.same {directory : Directory} {found again : String → Option Json} {server : ServerSettings}
    {ignored : Namespaces} {provider : CloudProvider} (taken : Otherwise directory found server ignored provider)
    (same : ∀ field ∈ fieldNames, found field = again field) : Otherwise directory again server ignored provider :=
  ⟨taken.server.same fun field member => same field (List.mem_append_left _ member),
    same "ignored_namespaces" (by decide) ▸ taken.ignored, same "cloud_provider" (by decide) ▸ taken.provider⟩

theorem parts_taken (directory : Directory) (members : Members) (parts : ServerSettings.Parts)
    (taken : parts.From directory (lastOf members)) : ServerSettings.readParts directory members = .ok (.ok parts) := by
  refine (map_ok _ _ _).mpr ⟨.ok (parts.address, parts.port, parts.certificate, parts.key, parts.httpOnly, parts.limit,
    parts.grace, parts.debug, parts.jsonLogs), ?_, rfl⟩
  simp only [Attempt.both_ok, Attempt.setting_ok]
  exact ⟨taken.address, taken.port, taken.certificate, taken.key, taken.httpOnly, taken.limit, taken.grace,
    taken.debug, taken.jsonLogs⟩

theorem parts_joined (server : ServerSettings) : server.parts.join = .ok server := by
  have paired := (ServerSettings.key_pair_ok (server.keyPair.map KeyPair.certificate) (server.keyPair.map KeyPair.key)
    server.keyPair).mpr ⟨rfl, rfl⟩
  rw [ServerSettings.Parts.join, ServerSettings.parts, paired]

/-- What the settings come to when all else is right, for the required annotations as they were read. -/
def settle (made : List RequiredAnnotation → Settings) :
    Attempt (List RequiredAnnotation) → Except SettingsFailure Settings
  | .ok (.ok required) => .ok (made required)
  | .ok (.error issues) => .error (.invalid ⟨title, issues.map (·.under (.key "required_annotations"))⟩)
  | .error cause => .error (.broken cause)

theorem settle_ok (made : List RequiredAnnotation → Settings) (attempt : Attempt (List RequiredAnnotation))
    (settings : Settings) : settle made attempt = .ok settings ↔
      ∃ required, attempt = .ok (.ok required) ∧ settings = made required := by
  rcases attempt with cause | issues | required <;> simp [settle, eq_comm]

theorem settle_invalid (made : List RequiredAnnotation → Settings) (attempt : Attempt (List RequiredAnnotation))
    (report : Report) : settle made attempt = .error (.invalid report) ↔
      ∃ issues, attempt = .ok (.error issues) ∧
        report = ⟨title, issues.map (·.under (.key "required_annotations"))⟩ := by
  rcases attempt with cause | issues | required <;> simp [settle, eq_comm]

theorem settle_broken (made : List RequiredAnnotation → Settings) (attempt : Attempt (List RequiredAnnotation))
    (cause : Breakdown) : settle made attempt = .error (.broken cause) ↔ attempt = .error cause := by
  rcases attempt with other | issues | required <;> simp [settle]

theorem settle_readable (made : List RequiredAnnotation → Settings) (attempt : Attempt (List RequiredAnnotation))
    (field : String) (source : Source) : settle made attempt ≠ .error (.unreadable field source) := by
  rcases attempt with cause | issues | required <;> simp [settle]

section

variable (sources : Sources) (members : Members) (server : ServerSettings) (ignored : Namespaces)
  (provider : CloudProvider) (found : sources.members fieldNames = .ok members)
  (otherwise : Otherwise sources.directory (lastOf members) server ignored provider)

include otherwise

theorem read_otherwise : read sources.machine sources.directory members =
    (Attempt.setting members "required_annotations" [] <| RequiredAnnotation.readAll sources.machine).map
      (Except.map fun required => (server.parts, ignored, provider, required)) := by
  have names := (Attempt.setting_ok members "ignored_namespaces" [] readNames ignored).mpr otherwise.ignored
  have named := (Attempt.setting_ok members "cloud_provider" .gcp CloudProvider.read provider).mpr otherwise.provider
  rw [read, readWith, parts_taken _ _ _ otherwise.server, names, named]
  cases Attempt.setting members "required_annotations" [] <| RequiredAnnotation.readAll sources.machine with
  | error cause => rfl
  | ok checked => cases checked <;> rfl

include found

theorem load_settled (attempt : Attempt (List RequiredAnnotation))
    (came : Attempt.setting members "required_annotations" [] ( RequiredAnnotation.readAll sources.machine) =
      attempt.under "required_annotations") :
    load sources = settle (fun required => ⟨server, ignored, provider, required⟩) attempt := by
  have read := read_otherwise sources members server ignored provider otherwise
  rw [came] at read
  cases attempt with
  | error cause => exact load_broken sources members cause found read
  | ok checked =>
    rw [load_checked sources members _ found read]
    cases checked with
    | error issues => rfl
    | ok required =>
      simp only [Checked.under, Except.map, Except.bind, join, parts_joined]
      rfl

end

-- Annotations that one value tells have keys of their own.
theorem held_single (machine : Machine) (value : Json) (required : List RequiredAnnotation)
    (single : Single (some value))
    (means : RequiredAnnotation.Means machine value (.object (required.map RequiredAnnotation.entryOf))) :
    (required.map RequiredAnnotation.key).Nodup := by
  have keys : keysOf (required.map RequiredAnnotation.entryOf) = required.map RequiredAnnotation.key := by
    simp [keysOf, RequiredAnnotation.entryOf]
  rw [← keys]
  generalize held : Json.object (required.map RequiredAnnotation.entryOf) = object at means
  cases means with
  | plain _ plain => exact single _ (congrArg some held.symm)
  | blank text blank =>
    rw [Json.object.inj held]
    exact List.nodup_nil
  | written text json filled read =>
    exact collapsed_single json.collapsed (Json.collapsed_twice json) _ (congrArg some held.symm)

def atRequired (issues : List Issue) : Report := ⟨title, issues.map (·.under (.key "required_annotations"))⟩

-- A report tells something, and all of it of the required annotations.
structure OfRequired (report : Report) : Prop where
  told : report.issues ≠ []
  place : ∀ issue ∈ report.issues, issue.place.head? = some (.key "required_annotations")

theorem refusal_of_required (machine : Machine) (value : Json) (issues : List Issue)
    (refuses : RequiredAnnotation.Refuses machine value issues) : OfRequired (atRequired issues) where
  told := by
    cases refuses with
    | unread | member => simp [atRequired]
    | torn _ all _ _ torn => simpa [atRequired] using torn
  place issue member := by
    obtain ⟨within, _, rfl⟩ := List.mem_map.mp member
    rfl

/-- What becomes of the settings for a value of the required annotations, when all other settings are right. -/
structure Judged (sources : Sources) (value : Json) (made : List RequiredAnnotation → Settings) : Prop where
  built : ∀ settings, load sources = .ok settings ↔
    ∃ required, RequiredAnnotation.Holds sources.machine value required ∧ settings = made required
  single : ∀ settings, load sources = .ok settings → (settings.required.map RequiredAnnotation.key).Nodup
  reported : ∀ report, load sources = .error (.invalid report) ↔
    ∃ issues, RequiredAnnotation.Refuses sources.machine value issues ∧ report = atRequired issues
  located : ∀ report, load sources = .error (.invalid report) → OfRequired report
  broken : ∀ cause, load sources = .error (.broken cause) ↔ RequiredAnnotation.Breaks sources.machine value cause
  readable : ∀ field source, load sources ≠ .error (.unreadable field source)

section

variable (sources : Sources) (value : Json) (made : List RequiredAnnotation → Settings)
  (settled : load sources = settle made ( RequiredAnnotation.readAll sources.machine value))

include settled

theorem settled_reported (report : Report) : load sources = .error (.invalid report) ↔
    ∃ issues, RequiredAnnotation.Refuses sources.machine value issues ∧ report = atRequired issues := by
  simp only [settled, settle_invalid, RequiredAnnotation.read_all_refused, atRequired]

theorem judged_of_settled (single : Single (some value)) (keeps : ∀ required, (made required).required = required) :
    Judged sources value made where
  built := by
    intro settings
    simp only [settled, settle_ok, RequiredAnnotation.read_all_ok]
  single := by
    intro settings loaded
    rw [settled] at loaded
    obtain ⟨required, read, rfl⟩ := (settle_ok _ _ _).mp loaded
    have holds := RequiredAnnotation.read_all_ok sources.machine value required
    rw [keeps]
    exact held_single sources.machine value required single (holds.mp read).means
  reported := settled_reported sources value made settled
  located := by
    intro report failed
    obtain ⟨issues, refuses, rfl⟩ := (settled_reported sources value made settled report).mp failed
    exact refusal_of_required sources.machine value issues refuses
  broken := by
    intro cause
    rw [settled, settle_broken, RequiredAnnotation.read_all_broken]
  readable := by
    intro field source
    rw [settled]
    exact settle_readable _ _ field source

end

theorem required_annotations_judged (sources : Sources) (server : ServerSettings) (ignored : Namespaces)
    (provider : CloudProvider) (settled : (Json.object sources.given).collapsed = .object sources.given)
    (readable : ∀ cause, ¬ sources.Unread cause)
    (otherwise : Otherwise sources.directory sources.gathered server ignored provider) :
    (sources.gathered "required_annotations" = none → load sources = .ok ⟨server, ignored, provider, []⟩) ∧
    ∀ value, sources.gathered "required_annotations" = some value →
      Judged sources value fun required => ⟨server, ignored, provider, required⟩ := by
  have distinct := (Json.collapsed_object _ settled).1
  obtain ⟨members, found⟩ := (sources.members_read distinct).mpr readable
  have same := sources.members_gathered fieldNames field_names_distinct distinct members found
  have here := same "required_annotations" (by decide)
  have taken := otherwise.same fun field member => (same field member).symm
  have settles := load_settled sources members server ignored provider found taken
  constructor
  · intro unsaid
    exact settles (.ok (.ok [])) (by rw [Attempt.setting, here, unsaid]; rfl)
  · intro value given
    have single := given ▸ sources.gathered_single settled "required_annotations"
    have read := settles _ (by rw [Attempt.setting, here, given])
    exact judged_of_settled sources value _ read single fun _ => rfl

/- Values of the keyword alone. -/

def requiring (value : Json) : Sources := ⟨[("required_annotations", value)], [], ⟨[], []⟩, .bare⟩

def usualServer : ServerSettings where
  address := "0.0.0.0"
  port := ServerSettings.defaultPort
  keyPair := none
  httpOnly := false
  limit := ServerSettings.defaultLimit
  grace := ServerSettings.defaultGrace
  debug := false
  jsonLogs := false

theorem requiring_otherwise (value : Json) :
    Otherwise (requiring value).directory (requiring value).gathered usualServer [] .gcp := by
  exact ⟨⟨rfl, rfl, rfl, rfl, rfl, rfl, rfl, rfl, rfl⟩, rfl, rfl⟩

-- Where nothing is known by name and no stack ends, a pattern compiles as it is read.
theorem bare_compile (errand : Errand) (text : String) :
    Machine.bare.compile errand text = (Pattern.read text).mapError .failed := rfl

theorem team_pattern_judged :
    (∃ settings, load (requiring (.object [("team", .string "[a-z]+")])) = .ok settings ∧
      settings.required.map RequiredAnnotation.key = ["team"]) ∧
    ∃ fault, load (requiring (.object [("team", .string "[unclosed")])) =
      .error (.invalid ⟨title, [⟨[.key "required_annotations"], fault⟩]⟩) := by
  have judged (value : Json)
      (settled : (Json.object (requiring value).given).collapsed = .object (requiring value).given) :
      Judged (requiring value) value fun required => ⟨usualServer, [], .gcp, required⟩ :=
    (required_annotations_judged (requiring value) usualServer [] .gcp settled (Sources.unread_bare _ _)
      (requiring_otherwise value)).2 value rfl
  constructor
  · have compiles : (Pattern.read "[a-z]+").map (fun _ => ()) = .ok () := by decide +kernel
    obtain ⟨pattern, read, _⟩ := (map_ok _ _ _).mp compiles
    have compiled : Machine.bare.compile .check "[a-z]+" = .ok pattern := by rw [bare_compile, read]; rfl
    have texts : Json.isWhole "team" = true ∧ Json.isWhole "[a-z]+" = true := by decide
    have whole := ( RequiredAnnotation.issues_whole ⟨"team", "[a-z]+", pattern⟩).mpr texts
    refine ⟨_, ((judged _ rfl).built _).mpr ⟨[⟨"team", "[a-z]+", pattern⟩], ⟨.plain _ nofun, ?_, ?_⟩, rfl⟩, rfl⟩
    · exact List.forall_mem_singleton.mpr compiled
    · rw [List.flatMap_singleton, whole]
  · have flawed : (Pattern.read "[unclosed").map (fun _ => ()) = .error (.flawed .openSet (some 0)) := by decide +kernel
    have read := (map_failed _ _ _).mp flawed
    have compiled : Machine.bare.compile .check "[unclosed" = .error (.failed (.flawed .openSet (some 0))) := by
      rw [bare_compile, read]
      rfl
    exact ⟨_, ((judged _ rfl).reported _).mpr ⟨_, .member _ _ "team" _ _ (.plain _ nofun) (.here _ _ _)
      (.flawed "team" "[unclosed" .openSet (some 0) compiled), rfl⟩⟩

/-- The settings are had, or a report tells why not. -/
def Answered (sources : Sources) : Prop :=
  (∃ settings, load sources = .ok settings) ∨ ∃ report, load sources = .error (.invalid report)

theorem escapes_unanswered (sources : Sources) (escapes : Escapes (load sources)) : ¬ Answered sources := by
  obtain ⟨cause, came, unreported⟩ := escapes
  rintro (⟨settings, loaded⟩ | ⟨report, told⟩)
  · cases came.symm.trans loaded
  · exact unreported report (Except.error.inj (came.symm.trans told))

theorem breaking_unanswered (value : Json) (cause : Breakdown)
    (breaks : RequiredAnnotation.Breaks .bare value cause) : ¬ Answered (requiring value) := by
  have single : (keysOf (requiring value).given).Nodup := by simp [requiring, keysOf]
  exact escapes_unanswered _ ((load_escapes _ single).mpr (.required value cause rfl breaks))

-- A list, a number for a pattern and a repeat that is too large.
theorem breakdowns_unreported : ¬ Answered (requiring (.array [])) ∧
    ¬ Answered (requiring (.object [("team", .int 1)])) ∧
    ¬ Answered (requiring (.object [("team", .string "x\x7b99999999999\x7d")])) := by
  have large : (Pattern.read "x\x7b99999999999\x7d").map (fun _ => ()) = .error .repeatTooLarge := by decide +kernel
  have compiled : Machine.bare.compile .check "x\x7b99999999999\x7d" = .error (.failed .repeatTooLarge) := by
    rw [bare_compile, (map_failed _ _ _).mp large]
    rfl
  refine ⟨breaking_unanswered _ _ (.notMembers _ _ (.plain _ nofun) nofun), ?_, ?_⟩
  · exact breaking_unanswered _ _ (.member _ _ "team" _ _ (.plain _ nofun) (.here _ _ _) (.notText _ nofun))
  · exact breaking_unanswered _ _ (.member _ _ "team" _ _ (.plain _ nofun) (.here _ _ _) (.repeatTooLarge _ compiled))

end Settings
end Gatehouse
