import Gatehouse.Proofs.CommandLine.Flags
import Gatehouse.Proofs.Settings.Loaded
import Gatehouse.Proofs.Settings.Required

/- Which source a setting is taken from. It is the first that has it, and neither another source nor another setting has
   a say in it; only where the first gives members do the later ones fill in those that it lacks. -/
namespace Gatehouse

-- What is said under a key, where members are said.
def memberOf (said : Option Json) (key : String) : Option Json := said.bind (·.get? key)

-- Members that are said have each key once.
def Single (said : Option Json) : Prop := ∀ members, said = some (.object members) → (keysOf members).Nodup

theorem none_single : Single none := by
  rintro members ⟨⟩

theorem collapsed_single (json : Json) (settled : json.collapsed = json) : Single (some json) := by
  rintro members ⟨⟩
  exact (Json.collapsed_object members settled).1

theorem covering_members (low high : Option Json) (lowSingle : Single low) (highSingle : Single high)
    (members : Members) (first : high.or low = some (.object members)) :
    ∃ all, covering low high = some (.object all) ∧ (keysOf all).Nodup ∧
      ∀ key, lastOf all key = covering (memberOf low key) (memberOf high key) := by
  cases high with
  | none =>
    obtain rfl : low = some (.object members) := first
    exact ⟨members, rfl, lowSingle members rfl, fun key => rfl⟩
  | some high =>
    obtain rfl : high = .object members := Option.some.inj first
    have once := highSingle members rfl
    have alone (key : String) : lastOf members key = covering none (memberOf (some (.object members)) key) :=
      (covering_over_none _).symm
    cases low with
    | none => exact ⟨members, rfl, once, alone⟩
    | some low =>
      cases low with
      | object lower =>
        have distinct := lowSingle lower rfl
        exact ⟨_, by rw [covering, Json.overlay], overlay_distinct lower members distinct,
          fun key => last_of_overlay lower members key distinct once⟩
      | null | bool | int | float | string | array =>
        exact ⟨members, by simp only [covering, Json.overlay], once, alone⟩

theorem covering_single (low high : Option Json) (lowSingle : Single low) (highSingle : Single high) :
    Single (covering low high) := by
  intro members covered
  cases high with
  | none =>
    have here : low = some (.object members) := by cases low <;> exact covered
    exact lowSingle members here
  | some high =>
    cases high with
    | object above =>
      obtain ⟨all, together, once, _⟩ := covering_members low _ lowSingle highSingle above rfl
      cases together.symm.trans covered
      exact once
    | null | bool | int | float | string | array => cases low <;> simp [covering, Json.overlay] at covered

namespace Sources

theorem setting_single (machine : Machine) (source : Source) (assigned : Variables) (field : String) :
    Single (settingIn machine source assigned field) := by
  intro members said
  rw [settingIn, settingOf] at said
  split at said
  · cases said
  · split at said
    · split at said
      · cases said
      · cases said
      · rename_i value _
        split at said
        · cases said
        · exact collapsed_single value.collapsed (Json.collapsed_twice value) members said
    · cases said

-- Whether a name in lower case is that of a variable for a setting.
def forSetting (name : String) : Bool := variableMark.toList.isPrefixOf name.toList

section

variable (sources : Sources)

-- No two variables for settings have names that differ in nothing but the case of their letters.
def Apart : Prop := ((sources.environment.map fun entry => lowered entry.1).filter forSetting).Nodup

-- What the first source says that gives members and has the key among them.
def firstMember (field key : String) : Option Json :=
  (memberOf (lastOf sources.given field) key).or
    ((memberOf (sources.inEnvironment field) key).or (memberOf (sources.inFile field) key))

theorem first_member_led (field key : String) (members : Members)
    (led : sources.first field = some (.object members)) :
    ∃ later, sources.firstMember field key = (lastOf members key).or later := by
  rw [first] at led
  cases given : lastOf sources.given field with
  | some json =>
    rw [given] at led
    obtain rfl : json = .object members := Option.some.inj led
    exact ⟨_, by rw [firstMember, given]; rfl⟩
  | none =>
    cases environment : sources.inEnvironment field with
    | some json =>
      rw [given, environment] at led
      obtain rfl : json = .object members := Option.some.inj led
      exact ⟨_, by rw [firstMember, given, environment]; rfl⟩
    | none =>
      rw [given, environment] at led
      have file : sources.inFile field = some (.object members) := led
      exact ⟨none, by rw [firstMember, given, environment, file, Option.or_none]; rfl⟩

theorem given_single (settled : (Json.object sources.given).collapsed = .object sources.given) (field : String) :
    Single (lastOf sources.given field) := by
  cases found : lastOf sources.given field with
  | none => exact none_single
  | some json =>
    exact collapsed_single json ((Json.collapsed_object _ settled).2 _ (last_of_member _ _ _ found))

theorem gathered_single (settled : (Json.object sources.given).collapsed = .object sources.given) (field : String) :
    Single (sources.gathered field) :=
  covering_single _ _ (setting_single _ _ _ _)
    (covering_single _ _ (setting_single _ _ _ _) (given_single sources settled field))

-- What all sources together say under a key of the setting.
def gatheredMember (field key : String) : Option Json :=
  covering (memberOf (sources.inFile field) key)
    (covering (memberOf (sources.inEnvironment field) key) (memberOf (lastOf sources.given field) key))

theorem gathered_member_text (field key text : String) :
    sources.gatheredMember field key = some (.string text) ↔ sources.firstMember field key = some (.string text) := by
  rw [gatheredMember, covering_text_iff, firstMember, ← Option.or_assoc]
  simp only [Option.or_eq_some_iff, Option.or_eq_none_iff, covering_text_iff, covering_none_iff]

theorem gathered_member_none (field key : String) :
    sources.gatheredMember field key = none ↔ sources.firstMember field key = none := by
  simp only [gatheredMember, firstMember, covering_none_iff, Option.or_eq_none_iff, and_assoc]

theorem gathered_members (settled : (Json.object sources.given).collapsed = .object sources.given) (field : String)
    (members : Members) (first : sources.first field = some (.object members)) :
    ∃ all, sources.gathered field = some (.object all) ∧ (keysOf all).Nodup ∧
      ∀ key, lastOf all key = sources.gatheredMember field key := by
  have fileSingle : Single (sources.inFile field) := setting_single _ _ _ _
  rw [Sources.first, ← Option.or_assoc] at first
  cases upper : (lastOf sources.given field).or (sources.inEnvironment field) with
  | none =>
    -- Only the file has the setting.
    obtain ⟨unsaid, unset⟩ := Option.or_eq_none_iff.mp upper
    rw [upper] at first
    obtain ⟨all, covered, once, entries⟩ := covering_members _ none fileSingle none_single members first
    refine ⟨all, ?_, once, fun key => ?_⟩
    · rw [gathered, unsaid, unset]
      exact covered
    · rw [gatheredMember, entries, unsaid, unset]
      rfl
  | some json =>
    rw [upper] at first
    obtain rfl : json = .object members := Option.some.inj first
    obtain ⟨above, laid, aboveOnce, aboveEntries⟩ :=
      covering_members _ _ (setting_single _ _ _ _) (given_single sources settled field) members upper
    have aboveSingle : Single (some (.object above)) := by
      rintro _ ⟨⟩
      exact aboveOnce
    obtain ⟨all, covered, once, entries⟩ := covering_members _ _ fileSingle aboveSingle above rfl
    refine ⟨all, ?_, once, fun key => ?_⟩
    · rw [gathered]
      exact (congrArg (covering (sources.inFile field)) laid).trans covered
    · rw [gatheredMember, entries]
      exact congrArg (covering (memberOf (sources.inFile field) key)) (aboveEntries key)

theorem environment_named (apart : sources.Apart) (field text : String) :
    valueOf? sources.environmentVariables field = some text ↔
      ∃ name, (name, text) ∈ sources.environment ∧ lowered name = variableMark ++ field := by
  have keys : keysOf ((sources.environmentVariables.map fun entry => (lowered entry.1, entry.2)).filter
      fun entry => forSetting entry.1) =
        (sources.environment.map fun entry => lowered entry.1).filter forSetting := by
    simp [keysOf, environmentVariables, List.filter_map, Function.comp_def]
  have meant : forSetting (variableMark ++ field) = true := by simp [forSetting]
  have assigned := last_of_iff _ (variableMark ++ field) (some text) (by rw [keys]; exact apart)
  rw [last_of_filter _ (fun entry => forSetting entry.1) _ fun _ => meant] at assigned
  rw [valueOf?, Option.join_eq_some_iff]
  refine assigned.trans ?_
  simp only [environmentVariables, List.mem_filter, List.mem_map, Prod.mk.injEq, meant, and_true]
  constructor
  · rintro ⟨_, ⟨⟨name, value⟩, entered, rfl⟩, named, same⟩
    cases same
    exact ⟨name, entered, named⟩
  · rintro ⟨name, entered, named⟩
    exact ⟨_, ⟨(name, text), entered, rfl⟩, named, rfl⟩

end
end Sources

theorem ServerSettings.Parts.From.same {directory : Directory} {found again : String → Option Json}
    {parts : ServerSettings.Parts} (read : parts.From directory found)
    (same : ∀ field ∈ ServerSettings.fieldNames, found field = again field) : parts.From directory again := by
  obtain ⟨address, port, certificate, key, httpOnly, limit, grace, debug, jsonLogs⟩ := read
  exact ⟨same "bind_address" (by decide) ▸ address, same "port" (by decide) ▸ port,
    same "tls_cert_path" (by decide) ▸ certificate, same "tls_key_path" (by decide) ▸ key,
    same "http_only" (by decide) ▸ httpOnly, same "limit_bytes" (by decide) ▸ limit,
    same "grace_period" (by decide) ▸ grace, same "debug" (by decide) ▸ debug,
    same "json_logs" (by decide) ▸ jsonLogs⟩

theorem RequiredAnnotation.entries_alike (machine changed : Machine) (found : Option Json)
    (left right : List RequiredAnnotation) (read : Attempt.Reads found [] (readAll machine) left)
    (reread : Attempt.Reads found [] (readAll changed) right) : left.map entryOf = right.map entryOf := by
  cases found with
  | none =>
    cases read
    cases reread
    rfl
  | some value =>
    have first := (read_all_ok machine value left).mp read
    have second := (read_all_ok changed value right).mp reread
    exact Json.object.inj (means_alike machine changed value _ _ first.means second.means)

namespace Settings

theorem From.same {machine : Machine} {directory : Directory} {found again : String → Option Json}
    {settings : Settings} (read : settings.From machine directory found)
    (same : ∀ field ∈ fieldNames, found field = again field) : settings.From machine directory again :=
  ⟨read.server.same fun field member => same field (List.mem_append_left _ member),
    same "ignored_namespaces" (by decide) ▸ read.ignored, same "cloud_provider" (by decide) ▸ read.provider,
    same "required_annotations" (by decide) ▸ read.required⟩

theorem load_gathered (sources : Sources) (settings : Settings)
    (settled : (Json.object sources.given).collapsed = .object sources.given)
    (loaded : load sources = .ok settings) :
    settings.From sources.machine sources.directory sources.gathered := by
  obtain ⟨members, read, found⟩ := load_ok sources settings loaded
  have given := (Json.collapsed_object _ settled).1
  exact found.same (Sources.members_gathered sources fieldNames field_names_distinct given members read)

def Requires (settings : Settings) (key text : String) : Prop :=
  ∃ required ∈ settings.required, required.key = key ∧ required.text = text

section

variable (sources : Sources) (settings : Settings)
  (settled : (Json.object sources.given).collapsed = .object sources.given)
  (read : settings.From sources.machine sources.directory sources.gathered) (members : Members)
  (led : sources.first "required_annotations" = some (.object members))

include settled read led

theorem required_listed : ∃ all,
    all = settings.required.map (fun required => (required.key, Json.string required.text)) ∧ (keysOf all).Nodup ∧
      ∀ key, lastOf all key = sources.gatheredMember "required_annotations" key := by
  obtain ⟨all, together, once, entries⟩ := sources.gathered_members settled _ members led
  have taken : RequiredAnnotation.readAll sources.machine (.object all) = .ok (.ok settings.required) := by
    have taken := read.required
    rw [together] at taken
    exact taken
  have means := ( RequiredAnnotation.read_all_ok _ _ _).mp taken |>.means
  exact ⟨all, RequiredAnnotation.means_members _ _ _ means, once, entries⟩

theorem required_gathered (key text : String) :
    settings.Requires key text ↔ sources.firstMember "required_annotations" key = some (.string text) := by
  obtain ⟨all, listed, once, entries⟩ := required_listed sources settings settled read members led
  rw [← sources.gathered_member_text, ← entries key, last_of_iff all key _ once, listed]
  simp [Requires]

-- What is required under a key that some source has.
theorem required_somewhere (key : String)
    (somewhere : (sources.firstMember "required_annotations" key).isSome = true) :
    ∃ text, settings.Requires key text := by
  obtain ⟨all, listed, _, entries⟩ := required_listed sources settings settled read members led
  cases found : lastOf all key with
  | none =>
    rw [entries, sources.gathered_member_none] at found
    rw [found] at somewhere
    cases somewhere
  | some json =>
    have member := last_of_member all key json found
    rw [listed] at member
    obtain ⟨required, among, same⟩ := List.mem_map.mp member
    cases same
    exact ⟨required.text, required, among, rfl, rfl⟩

theorem required_overridden :
    (∀ key text, settings.Requires key text ↔ lastOf members key = some (.string text)) ↔
      ∀ key, (sources.firstMember "required_annotations" key).isSome = true → (lastOf members key).isSome = true := by
  constructor
  · intro same key somewhere
    obtain ⟨text, requires⟩ := required_somewhere sources settings settled read members led key somewhere
    rw [(same key text).mp requires]
    rfl
  · intro within key text
    obtain ⟨later, leading⟩ := sources.first_member_led "required_annotations" key members led
    rw [required_gathered sources settings settled read members led]
    cases found : lastOf members key with
    | some json => rw [leading, found, Option.some_or]
    | none =>
      have nowhere : sources.firstMember "required_annotations" key = none := by
        by_contra somewhere
        have inside := within key (Option.isSome_iff_ne_none.mpr somewhere)
        rw [found] at inside
        cases inside
      rw [nowhere]

end

theorem exported_alike (machine changed : Machine) (directory other : Directory) (found again : String → Option Json)
    (settings others : Settings) (read : settings.From machine directory found)
    (reread : others.From changed other again)
    (field : String) (member : field ∈ fieldNames) (same : found field = again field) :
    lastOf settings.members field = lastOf others.members field := by
  -- The directories may differ, and with them what lies there; a path is named without them.
  have paths (field : String) (left right : Option Path) (same : found field = again field)
      (read : Attempt.Reads (found field) none (Path.read directory) left)
      (reread : Attempt.Reads (again field) none (Path.read other) right) : left = right := by
    rw [← (path_reads directory _ _ read).1, same, (path_reads other _ _ reread).1]
  simp only [fieldNames, ServerSettings.fieldNames, List.mem_append, List.mem_cons, List.not_mem_nil, or_false]
    at member
  rcases member with (rfl | rfl | rfl | rfl | rfl | rfl | rfl | rfl | rfl) | rfl | rfl | rfl
  · have alike : settings.server.address = others.server.address :=
      Attempt.reads_alike _ _ _ _ _ read.server.address (same ▸ reread.server.address)
    simp [Settings.members, ServerSettings.members, lastOf, alike]
  · have alike : settings.server.port = others.server.port :=
      Attempt.reads_alike _ _ _ _ _ read.server.port (same ▸ reread.server.port)
    simp [Settings.members, ServerSettings.members, lastOf, alike]
  · have alike : settings.server.keyPair.map KeyPair.certificate = others.server.keyPair.map KeyPair.certificate :=
      paths _ _ _ same read.server.certificate reread.server.certificate
    simp [Settings.members, ServerSettings.members, lastOf, alike]
  · have alike : settings.server.keyPair.map KeyPair.key = others.server.keyPair.map KeyPair.key :=
      paths _ _ _ same read.server.key reread.server.key
    simp [Settings.members, ServerSettings.members, lastOf, alike]
  · have alike : settings.server.httpOnly = others.server.httpOnly :=
      Attempt.reads_alike _ _ _ _ _ read.server.httpOnly (same ▸ reread.server.httpOnly)
    simp [Settings.members, ServerSettings.members, lastOf, alike]
  · have alike : settings.server.limit = others.server.limit :=
      Attempt.reads_alike _ _ _ _ _ read.server.limit (same ▸ reread.server.limit)
    simp [Settings.members, ServerSettings.members, lastOf, alike]
  · have alike : settings.server.grace = others.server.grace :=
      Attempt.reads_alike _ _ _ _ _ read.server.grace (same ▸ reread.server.grace)
    simp [Settings.members, ServerSettings.members, lastOf, alike]
  · have alike : settings.server.debug = others.server.debug :=
      Attempt.reads_alike _ _ _ _ _ read.server.debug (same ▸ reread.server.debug)
    simp [Settings.members, ServerSettings.members, lastOf, alike]
  · have alike : settings.server.jsonLogs = others.server.jsonLogs :=
      Attempt.reads_alike _ _ _ _ _ read.server.jsonLogs (same ▸ reread.server.jsonLogs)
    simp [Settings.members, ServerSettings.members, lastOf, alike]
  · have alike : settings.ignored = others.ignored :=
      Attempt.reads_alike _ _ _ _ _ read.ignored (same ▸ reread.ignored)
    simp [Settings.members, ServerSettings.members, lastOf, alike]
  · have alike : settings.provider = others.provider :=
      Attempt.reads_alike _ _ _ _ _ read.provider (same ▸ reread.provider)
    simp [Settings.members, ServerSettings.members, lastOf, alike]
  · have alike := RequiredAnnotation.entries_alike machine changed _ _ _ read.required (same ▸ reread.required)
    have shown (settings : Settings) :
        lastOf settings.members "required_annotations" = some (.object (settings.required.map fun required =>
          (required.key, .string required.text))) := by
      simp [Settings.members, ServerSettings.members, lastOf]
    rw [shown, shown]
    exact congrArg (some ∘ Json.object) alike

/-- Which source each setting was taken from. -/
structure Ranked (sources : Sources) (settings : Settings) : Prop where
  named : ∀ field text, Sources.valueOf? sources.environmentVariables field = some text ↔
    ∃ name, (name, text) ∈ sources.environment ∧ Sources.lowered name = Sources.variableMark ++ field
  values : settings.From sources.machine sources.directory sources.gathered
  first : ∀ field, Sources.documentFields.contains field = false ∨
    (∀ members, sources.first field ≠ some (.object members)) → sources.gathered field = sources.first field
  required : ∀ members, sources.first "required_annotations" = some (.object members) → ∀ key text,
    settings.Requires key text ↔ sources.firstMember "required_annotations" key = some (.string text)
  overridden : ∀ members, sources.first "required_annotations" = some (.object members) →
    ((∀ key text, settings.Requires key text ↔ lastOf members key = some (.string text)) ↔
      ∀ key, (sources.firstMember "required_annotations" key).isSome = true → (lastOf members key).isSome = true)
  alone : ∀ other settings', (Json.object other.given).collapsed = .object other.given →
    load other = .ok settings' → ∀ field ∈ fieldNames, sources.gathered field = other.gathered field →
      lastOf settings.members field = lastOf settings'.members field

-- What a caller gives has each key once, at every depth.
theorem load_ranked (sources : Sources) (settings : Settings)
    (settled : (Json.object sources.given).collapsed = .object sources.given)
    (apart : sources.Apart) (loaded : load sources = .ok settings) : Ranked sources settings := by
  have read := load_gathered sources settings settled loaded
  exact {
    named := sources.environment_named apart
    values := read
    first := sources.gathered_first
    required := required_gathered sources settings settled read
    overridden := required_overridden sources settings settled read
    alone := fun other settings' distinct again =>
      exported_alike _ _ _ _ _ _ settings settings' read (load_gathered other settings' distinct again) }

theorem sources_ranked (sources : Sources) (settings : Settings)
    (settled : (Json.object sources.given).collapsed = .object sources.given)
    (apart : sources.Apart) (loaded : load sources = .ok settings) :
    Ranked sources settings ∧
    ∀ arguments which, CommandLine.request arguments = .command which sources.given →
      ∃ given, CommandLine.Typed arguments which given ∧ CommandLine.Flagged given which sources.given := by
  refine ⟨load_ranked sources settings settled apart loaded, fun arguments which entered => ?_⟩
  obtain ⟨given, typed, made⟩ := CommandLine.request_typed arguments which sources.given entered
  exact ⟨given, typed, CommandLine.flags_override given which sources.given made⟩

-- Whether the settings could be loaded and look as they should.
def loadedWith {α : Type} (look : α → Bool) : Except SettingsFailure α → Bool
  | .ok loaded => look loaded
  | .error _ => false

theorem loaded_with {α : Type} (look : α → Bool) (result : Except SettingsFailure α)
    (loaded : loadedWith look result = true) : ∃ made, result = .ok made ∧ look made = true := by
  cases result with
  | error cause => cases loaded
  | ok made => exact ⟨made, rfl, loaded⟩

-- The flag undoes what the environment says, and the environment what the file of variables says.
def layered : Sources where
  given := [("port", .int 10443)]
  environment := [("Admission_Port", "9443"), ("ADMISSION_DEBUG", "on")]
  directory := ⟨[(".env", Utf8.encode "ADMISSION_DEBUG=off\nADMISSION_CLOUD_PROVIDER=aws\n")], []⟩
  machine := .bare

theorem layered_loaded : ∃ settings, load layered = .ok settings ∧ settings.server.port.number = 10443 ∧
    settings.server.debug = true ∧ settings.provider = .aws := by
  have loads : loadedWith (fun settings => settings.server.port.number == 10443 && settings.server.debug &&
      settings.provider == .aws) (load layered) = true := by decide +kernel
  obtain ⟨settings, loaded, looks⟩ := loaded_with _ _ loads
  simp only [Bool.and_eq_true, beq_iff_eq] at looks
  exact ⟨settings, loaded, looks.1.1, looks.1.2, looks.2⟩

theorem layered_ranked : ∃ settings given, load layered = .ok settings ∧ Ranked layered settings ∧
    settings.server.port.number = 10443 ∧ settings.server.debug = true ∧ settings.provider = .aws ∧
    CommandLine.Typed ["show-config", "--port", "10443"] .showConfig given ∧
    CommandLine.Flagged given .showConfig layered.given := by
  have apart : layered.Apart := by
    rw [Sources.Apart]
    decide +kernel
  have entered : CommandLine.request ["show-config", "--port", "10443"] = .command .showConfig layered.given := by rfl
  obtain ⟨settings, loaded, port, debug, provider⟩ := layered_loaded
  obtain ⟨ranked, flags⟩ := sources_ranked layered settings rfl apart loaded
  obtain ⟨given, typed, flagged⟩ := flags _ _ entered
  exact ⟨settings, given, loaded, ranked, port, debug, provider, typed, flagged⟩

-- One annotation is required by the caller, another one by the environment.
def divided : Sources where
  given := [("required_annotations", .object [("owner", .string "x")])]
  environment := [("ADMISSION_REQUIRED_ANNOTATIONS", "\x7b\"team\":\"y\"\x7d")]
  directory := ⟨[], []⟩
  machine := .bare

theorem divided_loaded : ∃ settings, load divided = .ok settings ∧
    settings.required.map RequiredAnnotation.key = ["team", "owner"] := by
  have loads : loadedWith (fun settings => settings.required.map RequiredAnnotation.key == ["team", "owner"])
      (load divided) = true := by decide +kernel
  obtain ⟨settings, loaded, looks⟩ := loaded_with _ _ loads
  exact ⟨settings, loaded, eq_of_beq looks⟩

theorem divided_not_overridden :
    (Json.object divided.given).collapsed = .object divided.given ∧ divided.Apart ∧
    divided.first "required_annotations" = some (.object [("owner", .string "x")]) ∧
    ∃ settings, load divided = .ok settings ∧
      ¬ settings.From divided.machine divided.directory divided.first := by
  obtain ⟨settings, loaded, keys⟩ := divided_loaded
  have first : divided.first "required_annotations" = some (.object [("owner", .string "x")]) := rfl
  have apart : divided.Apart := by
    rw [Sources.Apart]
    decide +kernel
  refine ⟨rfl, apart, first, settings, loaded, fun read => ?_⟩
  have taken : RequiredAnnotation.readAll divided.machine (.object [("owner", .string "x")]) =
      .ok (.ok settings.required) := by
    have taken := read.required
    rw [first] at taken
    exact taken
  have listed := RequiredAnnotation.means_members _ _ _ (( RequiredAnnotation.read_all_ok _ _ _).mp taken).means
  have alone := congrArg List.length listed
  have both := congrArg List.length keys
  simp only [List.length_map, List.length_cons, List.length_nil] at alone both
  omega

end Settings
end Gatehouse
