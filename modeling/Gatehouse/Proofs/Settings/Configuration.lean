import Gatehouse.Proofs.Settings.Exported
import Gatehouse.Settings.Configuration

/- What an accepted configuration keeps. Its texts come of what was given and checked, key by key: a text is kept as it
   was checked, bytes are kept as the text that they hold. Patterns that are all values are accepted as the settings of
   their sources are. -/
namespace Gatehouse

namespace Attempt

theorem each_ok {α β : Type} (read : α → Attempt β) (items : List α) (values : List β)
    (all : each read items = .ok (.ok values)) : ∀ item ∈ items, ∃ value, read item = .ok (.ok value) := by
  induction items generalizing values with
  | nil => exact nofun
  | cons item rest ih =>
    rw [each] at all
    split at all
    · rename_i first here
      split at all
      · rename_i others later
        exact List.forall_mem_cons.mpr ⟨⟨first, here⟩, ih others later⟩
      · rename_i other
        exact absurd all (other values)
    · cases all
    · cases all

theorem under_ok {α : Type} (name : String) (attempt : Attempt α) (value : α) :
    under name attempt = .ok (.ok value) ↔ attempt = .ok (.ok value) := by
  rcases attempt with cause | issues | found <;> simp [under, Checked.under]

theorem both_mapped {α β γ : Type} (left : Attempt α) (right : Attempt β) (f : β → γ) :
    both left (Except.map (Except.map f) right) =
      (both left right).map (Except.map fun pair => (pair.1, f pair.2)) := by
  rcases left with cause | issues | first <;> rcases right with other | more | second <;> rfl

theorem under_mapped {α β : Type} (name : String) (attempt : Attempt α) (f : α → β) :
    under name (Except.map (Except.map f) attempt) = (attempt.under name).map (Except.map f) := by
  rcases attempt with cause | issues | value <;> rfl

end Attempt

namespace GivenPattern

/- Patterns that are laid on others -/

theorem laid_values (low high : Members) : laid (values low) (values high) = values (Json.overlayMembers low high) := by
  induction high generalizing low with
  | nil => rfl
  | cons entry rest ih =>
    obtain ⟨key, json⟩ := entry
    have found : lastOf (values low) key = (lastOf low key).map .value :=
      last_of_mapped GivenPattern.value low key
    have covered (json : Json) : put (values low) key (.value json) = values (put low key json) :=
      (put_mapped GivenPattern.value low key json).symm
    change laid (put (values low) key (cover (lastOf (values low) key) (.value json))) (values rest) = _
    rw [found, Json.overlayMembers]
    cases lastOf low key with
    | none => exact (congrArg (laid · (values rest)) (covered json)).trans (ih _)
    | some lower => exact (congrArg (laid · (values rest)) (covered (lower.overlay json))).trans (ih _)

theorem laid_apart (low high : GivenPatterns) (distinct : (keysOf (low ++ high)).Nodup) :
    laid low high = low ++ high := by
  induction high generalizing low with
  | nil => rw [laid, List.append_nil]
  | cons entry rest ih =>
    obtain ⟨key, given⟩ := entry
    have apart : key ∉ keysOf low := by
      simp only [keys_of_append, keys_of_cons, List.nodup_append] at distinct
      exact fun member => distinct.2.2 key member key List.mem_cons_self rfl
    rw [laid, last_of_absent low key apart, put_absent low key _ apart, ih _ (by simpa using distinct)]
    simp [cover]

theorem laid_covering (low : Option Json) (high : Members) (lowSingle : Single low) (once : (keysOf high).Nodup) :
    ∃ all, covering low (some (.object high)) = some (.object all) ∧
      laid (valuesIn low) (values high) = values all ∧ (keysOf all).Nodup := by
  have fresh : laid [] (values high) = values high := by
    refine laid_apart [] (values high) ?_
    rwa [List.nil_append, keysOf, values, List.map_map]
  cases low with
  | none => exact ⟨high, rfl, fresh, once⟩
  | some json =>
    cases json with
    | object members =>
      refine ⟨Json.overlayMembers members high, ?_, laid_values members high, ?_⟩
      · rw [covering, Json.overlay]
      · exact overlay_distinct members high (lowSingle members rfl)
    | null | bool | int | float | string | array => exact ⟨high, by simp [covering, Json.overlay], fresh, once⟩

theorem laid_bytes (low high : GivenPatterns) (key : String) (content : ByteArray)
    (member : (key, .bytes content) ∈ laid low high) : (key, .bytes content) ∈ low ∨ (key, .bytes content) ∈ high := by
  induction high generalizing low with
  | nil => exact .inl member
  | cons entry rest ih =>
    obtain ⟨place, given⟩ := entry
    rcases ih _ member with earlier | later
    · rcases put_member low place _ _ earlier with same | earlier
      · obtain ⟨rfl, covered⟩ := Prod.mk.inj same
        have bare : given = .bytes content := by
          unfold cover at covered
          split at covered
          · cases covered
          · exact covered.symm
        rw [bare]
        exact .inr List.mem_cons_self
      · exact .inl earlier
    · exact .inr (List.mem_cons_of_mem _ later)

theorem values_in_bytes (said : Option Json) (key : String) (content : ByteArray) :
    (key, .bytes content) ∉ valuesIn said := by
  intro member
  unfold valuesIn at member
  split at member
  · obtain ⟨_, _, same⟩ := List.mem_map.mp member
    cases same
  · cases member

section

variable (machine : Machine)

/- Patterns as they are kept -/

theorem kept_ok (key : String) (given : GivenPattern) (entry : String × String) :
    kept (key, given) = .ok entry ↔ Json.isWhole key = true ∧ key = entry.1 ∧ given.text = .ok entry.2 := by
  obtain ⟨place, text⟩ := entry
  rw [kept, keptEntry, Checked.under_ok, Checked.both_ok, Checked.under_ok, keptText]
  by_cases whole : Json.isWhole key = true <;> simp [whole, Checked.fault]

theorem all_kept_keys (patterns : GivenPatterns) (entries : List (String × String))
    (all : patterns.map kept = entries.map .ok) : keysOf entries = keysOf patterns := by
  induction patterns generalizing entries with
  | nil => cases entries <;> trivial
  | cons item rest ih =>
    cases entries with
    | nil => cases all
    | cons entry others =>
      obtain ⟨here, later⟩ := List.cons.inj all
      obtain ⟨key, given⟩ := item
      obtain ⟨_, same, _⟩ := (kept_ok key given entry).mp here
      rw [keys_of_cons, keys_of_cons, ih others later, ← same]

theorem read_all_kept (patterns : GivenPatterns) (entries : List (String × String))
    (read : readAll machine patterns = .ok (.ok entries)) :
    (∀ item ∈ patterns, check machine item = .ok (.ok ())) ∧ patterns.map kept = entries.map .ok := by
  obtain ⟨checked, each, held⟩ := (map_ok _ _ _).mp read
  cases checked with
  | error issues => cases held
  | ok done =>
    refine ⟨fun item member => ?_, (Checked.all_ok _ _).mp held⟩
    obtain ⟨_, right⟩ := Attempt.each_ok _ _ _ each item member
    exact right

theorem read_all_keys (patterns : GivenPatterns) (entries : List (String × String))
    (read : readAll machine patterns = .ok (.ok entries)) : keysOf entries = keysOf patterns := by
  exact all_kept_keys patterns entries (read_all_kept machine patterns entries read).2

theorem read_all_member (patterns : GivenPatterns) (entries : List (String × String))
    (read : readAll machine patterns = .ok (.ok entries)) (entry : String × String) (member : entry ∈ entries) :
    ∃ given, (entry.1, given) ∈ patterns ∧ check machine (entry.1, given) = .ok (.ok ()) ∧
      given.text = .ok entry.2 := by
  obtain ⟨checked, listed⟩ := read_all_kept machine patterns entries read
  have among : Except.ok entry ∈ patterns.map kept := listed ▸ List.mem_map_of_mem member
  obtain ⟨⟨key, given⟩, located, held⟩ := List.mem_map.mp among
  obtain ⟨_, rfl, text⟩ := (kept_ok key given entry).mp held
  exact ⟨given, located, checked _ located, text⟩

-- A value that is right is a text that compiles.
theorem checked_value (key text : String) (json : Json) (right : check machine (key, .value json) = .ok (.ok ()))
    (held : (GivenPattern.value json).text = .ok text) : ∃ pattern, machine.compile .check text = .ok pattern := by
  rw [check] at right
  rcases RequiredAnnotation.member_cases machine key json with
    ⟨required, same, compiles⟩ | ⟨fault, refused⟩ | ⟨cause, breaks⟩
  · obtain ⟨rfl, rfl⟩ := Prod.mk.inj same
    change keptText required.text = .ok text at held
    rw [keptText] at held
    split at held
    · cases held
      exact ⟨required.pattern, compiles⟩
    · cases held
  · rw [ RequiredAnnotation.check_refused machine key json fault refused] at right
    cases right
  · rw [ RequiredAnnotation.check_breaks machine key json cause breaks] at right
    cases right

theorem pattern_checked (key : String) (shown : PatternText.Invalid → String)
    (outcome : Except (Halt PatternText.Invalid) Pattern) (pattern : Pattern) :
    Pattern.checked key shown outcome = .ok (.ok pattern) ↔ outcome = .ok pattern := by
  unfold Pattern.checked
  split <;> simp [Attempt.issue, Checked.fault]

-- Bytes that are right compile as bytes and hold a text.
theorem checked_bytes (key text : String) (content : ByteArray)
    (right : check machine (key, .bytes content) = .ok (.ok ())) (held : (GivenPattern.bytes content).text = .ok text) :
    (∃ pattern, machine.compileBytes .checkBytes (told content) = .ok pattern) ∧ Utf8.decode content = .ok text := by
  constructor
  · obtain ⟨checked, came, done⟩ := (map_ok _ _ _).mp right
    obtain ⟨pattern, rfl, _⟩ := (map_ok _ _ _).mp done
    exact ⟨pattern, (pattern_checked key _ _ pattern).mp came⟩
  · rw [GivenPattern.text] at held
    cases decoded : Utf8.decode content with
    | ok found =>
      simp only [decoded, Except.ok.injEq] at held
      rw [held]
    | error failure =>
      simp only [decoded] at held
      cases held

/- Patterns that are values -/

theorem each_values (members : Members) : Attempt.each (check machine) (values members) =
    (Attempt.each ( RequiredAnnotation.check machine) members).map (Except.map fun all => all.map fun _ => ()) := by
  induction members with
  | nil => rfl
  | cons member rest ih =>
    obtain ⟨key, json⟩ := member
    change Attempt.each (check machine) ((key, .value json) :: values rest) = _
    rw [Attempt.each, Attempt.each, ih, check]
    rcases RequiredAnnotation.check machine (key, json) with cause | issues | first
    · rfl
    · rfl
    · rcases Attempt.each ( RequiredAnnotation.check machine) rest with cause | issues | others <;> rfl

theorem kept_value (required : RequiredAnnotation) :
    kept (required.key, .value (.string required.text)) =
      ( RequiredAnnotation.kept required).map RequiredAnnotation.written := by
  rw [kept, RequiredAnnotation.kept]
  change keptEntry required.key (keptText required.text) = _
  rcases keptEntry required.key (keptText required.text) with issues | entry <;> rfl

theorem all_kept_values (all : List RequiredAnnotation) :
    Checked.all ((values (all.map RequiredAnnotation.entryOf)).map kept) =
      (Checked.all (all.map RequiredAnnotation.kept)).map (List.map RequiredAnnotation.written) := by
  induction all with
  | nil => rfl
  | cons required rest ih =>
    change Checked.all (kept (required.key, .value (.string required.text)) ::
      (values (rest.map RequiredAnnotation.entryOf)).map kept) = _
    rw [Checked.all, ih, kept_value, List.map_cons, Checked.all]
    rcases RequiredAnnotation.kept required with issues | first <;>
      rcases Checked.all (rest.map RequiredAnnotation.kept) with more | others <;> rfl

theorem read_values (members : Members) : readAll machine (values members) =
    ( RequiredAnnotation.ofMembers machine members).map (Except.map <| List.map RequiredAnnotation.written) := by
  rw [readAll, RequiredAnnotation.ofMembers, each_values]
  rcases RequiredAnnotation.members_cases machine members with
    ⟨all, rfl, compile⟩ | ⟨key, json, reaches, ⟨fault, refused⟩ | ⟨cause, breaks⟩⟩
  · rw [ RequiredAnnotation.each_compiles machine all compile]
    exact congrArg Except.ok (all_kept_values all)
  · rw [ RequiredAnnotation.each_refused machine members key json fault reaches refused]
    rfl
  · rw [ RequiredAnnotation.each_breaks machine members key json cause reaches breaks]
    rfl

end

end GivenPattern

/- Settings whose patterns are given as values -/

namespace Offer

-- These bytes were given for the pattern under the key.
def GaveBytes (offer : Offer) (key : String) (content : ByteArray) : Prop :=
  ∃ patterns, offer.patterns = some patterns ∧ (key, .bytes content) ∈ patterns

-- Only what is given may be in bytes.
theorem gathered_bytes (offer : Offer) (patterns : GivenPatterns) (key : String) (content : ByteArray)
    (member : (key, .bytes content) ∈ offer.gathered patterns) : (key, .bytes content) ∈ patterns := by
  rcases GivenPattern.laid_bytes _ _ key content member with file | upper
  · exact absurd file (GivenPattern.values_in_bytes _ key content)
  · rcases GivenPattern.laid_bytes _ _ key content upper with environment | given
    · exact absurd environment (GivenPattern.values_in_bytes _ key content)
    · exact given

end Offer

namespace Sources

-- The required annotations among what is given.
def requiring (sources : Sources) (members : Members) : Sources :=
  sources.giving (sources.given ++ [("required_annotations", .object members)])

theorem giving_unread (sources : Sources) (given : Members) (fields : List String) (cause : SettingsFailure)
    (unread : sources.members fields = .error cause) : (sources.giving given).members fields = .error cause := by
  unfold members at unread ⊢
  change (sources.fileText.mapError _ >>= fun _ => _) = _
  cases text : sources.fileText.mapError SettingsFailure.broken with
  | error broken =>
    rw [text] at unread
    exact unread
  | ok _ =>
    rw [text] at unread
    change (settingsOf sources.machine .environment sources.environmentVariables fields >>= fun _ => _) = _
    cases environment : settingsOf sources.machine .environment sources.environmentVariables fields with
    | error found =>
      simp only [environment, bind, Except.bind] at unread
      exact unread
    | ok entries =>
      change (settingsOf sources.machine .envFile sources.fileVariables fields >>= fun _ => _) = _
      cases file : settingsOf sources.machine .envFile sources.fileVariables fields with
      | error found =>
        simp only [environment, file, bind, Except.bind] at unread
        exact unread
      | ok others =>
        simp only [environment, file, bind, Except.bind, pure, Except.pure, reduceCtorEq] at unread

theorem requiring_distinct (sources : Sources) (members : Members)
    (distinct : (keysOf (sources.requiring members).given).Nodup) : (keysOf sources.given).Nodup := by
  change (keysOf (sources.given ++ [("required_annotations", .object members)])).Nodup at distinct
  simp only [keys_of_append, List.nodup_append] at distinct
  exact distinct.1

theorem requiring_gathered (sources : Sources) (members : Members) (field : String)
    (other : field ≠ "required_annotations") : (sources.requiring members).gathered field = sources.gathered field := by
  have same : lastOf (sources.requiring members).given field = lastOf sources.given field := by
    change lastOf (sources.given ++ [("required_annotations", .object members)]) field = _
    simp [last_of_append, lastOf, Ne.symm other]
  rw [gathered, gathered, same]
  rfl

theorem requiring_required (sources : Sources) (members : Members) (once : (keysOf members).Nodup) : ∃ all,
    (sources.requiring members).gathered "required_annotations" = some (.object all) ∧
      Offer.gathered ⟨sources, none⟩ (GivenPattern.values members) = GivenPattern.values all := by
  obtain ⟨upper, covered, laid, distinct⟩ := GivenPattern.laid_covering (sources.inEnvironment "required_annotations")
    members (setting_single _ _ _ _) once
  obtain ⟨all, covers, lays, _⟩ := GivenPattern.laid_covering (sources.inFile "required_annotations") upper
    (setting_single _ _ _ _) distinct
  have given : lastOf (sources.requiring members).given "required_annotations" = some (.object members) := by
    change lastOf (sources.given ++ [("required_annotations", .object members)]) "required_annotations" = _
    simp [last_of_append, lastOf]
  refine ⟨all, ?_, ?_⟩
  · rw [gathered, given]
    exact (congrArg (covering _) covered).trans covers
  · rw [Offer.gathered, laid, lays]

end Sources

namespace Settings

theorem read_with_alike {α : Type} (directory : Directory) (left right : Members) (required : Attempt α)
    (same : ∀ field ∈ fieldNames, field ≠ "required_annotations" → lastOf left field = lastOf right field) :
    readWith directory left required = readWith directory right required := by
  have alike {β : Type} (field : String) (absent : β) (read : Json → Attempt β) (member : field ∈ fieldNames)
      (other : field ≠ "required_annotations") :
      Attempt.setting left field absent read = Attempt.setting right field absent read := by
    rw [Attempt.setting, Attempt.setting, same field member other]
  simp only [readWith, ServerSettings.readParts]
  rw [alike "bind_address" _ _ (by decide) (by decide), alike "port" _ _ (by decide) (by decide),
    alike "tls_cert_path" _ _ (by decide) (by decide), alike "tls_key_path" _ _ (by decide) (by decide),
    alike "http_only" _ _ (by decide) (by decide), alike "limit_bytes" _ _ (by decide) (by decide),
    alike "grace_period" _ _ (by decide) (by decide), alike "debug" _ _ (by decide) (by decide),
    alike "json_logs" _ _ (by decide) (by decide), alike "ignored_namespaces" _ _ (by decide) (by decide),
    alike "cloud_provider" _ _ (by decide) (by decide)]

theorem read_with_mapped {α β : Type} (directory : Directory) (members : Members) (required : Attempt α) (f : α → β) :
    readWith directory members (required.map (Except.map f)) =
      (readWith directory members required).map (Except.map fun parts => (parts.1, parts.2.1, parts.2.2.1,
        f parts.2.2.2)) := by
  simp only [readWith, Attempt.both_mapped]

end Settings

namespace Configuration

/- What becomes of patterns that are given -/

theorem load_unread (sources : Sources) (patterns : GivenPatterns) (cause : SettingsFailure)
    (failed : sources.members Settings.fieldNames = .error cause) :
    load ⟨sources, some patterns⟩ = .error cause := by
  simp only [load, failed, bind, Except.bind]

section

variable (sources : Sources) (patterns : GivenPatterns) (members : Members)
  (found : sources.members Settings.fieldNames = .ok members)

include found

theorem load_broken (cause : Breakdown)
    (broken : Settings.readWith sources.directory members ((GivenPattern.readAll sources.machine
      (Offer.gathered ⟨sources, some patterns⟩ patterns)).under "required_annotations") = .error cause) :
    load ⟨sources, some patterns⟩ = .error (.broken cause) := by
  simp only [load, found, bind, Except.bind, broken]

theorem load_checked
    (checked : Checked (ServerSettings.Parts × Namespaces × CloudProvider × List (String × String)))
    (came : Settings.readWith sources.directory members ((GivenPattern.readAll sources.machine
      (Offer.gathered ⟨sources, some patterns⟩ patterns)).under "required_annotations") = .ok checked) :
    load ⟨sources, some patterns⟩ = (titled Settings.title (checked.bind join)).mapError .invalid := by
  simp only [load, found, bind, Except.bind, came]

end

/- Patterns that are all values -/

-- The same parts with the patterns as texts.
def texted (parts : ServerSettings.Parts × Namespaces × CloudProvider × List RequiredAnnotation) :
    ServerSettings.Parts × Namespaces × CloudProvider × List (String × String) :=
  (parts.1, parts.2.1, parts.2.2.1, parts.2.2.2.map RequiredAnnotation.written)

theorem join_texted (checked : Checked (ServerSettings.Parts × Namespaces × CloudProvider × List RequiredAnnotation)) :
    (Except.map texted checked).bind join = (checked.bind Settings.join).map ofSettings := by
  cases checked with
  | error issues => rfl
  | ok parts =>
    change (parts.1.join.map _ : Checked Configuration) = (parts.1.join.map _ : Checked Settings).map ofSettings
    cases parts.1.join <;> rfl

theorem reported_mapped {α β : Type} (title : String) (checked : Checked α) (f : α → β) :
    (titled title (checked.map f)).mapError SettingsFailure.invalid =
      ((titled title checked).mapError SettingsFailure.invalid).map f := by
  cases checked <;> rfl

theorem values_read (sources : Sources) (held again all : Members)
    (same : ∀ field ∈ Settings.fieldNames, field ≠ "required_annotations" → lastOf held field = lastOf again field)
    (required : lastOf again "required_annotations" = some (.object all)) :
    Settings.readWith sources.directory held
      ((GivenPattern.readAll sources.machine (GivenPattern.values all)).under "required_annotations") =
        (Settings.read sources.machine sources.directory again).map (Except.map texted) := by
  have setting : Attempt.setting again "required_annotations" [] ( RequiredAnnotation.readAll sources.machine) =
      ( RequiredAnnotation.ofMembers sources.machine all).under "required_annotations" := by
    rw [Attempt.setting, required]
    rfl
  rw [GivenPattern.read_values, Attempt.under_mapped, Settings.read_with_mapped, Settings.read, setting,
    Settings.read_with_alike _ _ _ _ same]
  rfl

theorem load_values (sources : Sources) (members : Members)
    (settled : (Json.object (sources.requiring members).given).collapsed = .object (sources.requiring members).given) :
    load ⟨sources, some (GivenPattern.values members)⟩ =
      (Settings.load (sources.requiring members)).map ofSettings := by
  obtain ⟨distinct, every⟩ := Json.collapsed_object _ settled
  have apart := sources.requiring_distinct members distinct
  have once : (keysOf members).Nodup :=
    (Json.collapsed_object members (every _ (List.mem_append_right _ (List.mem_singleton_self _)))).1
  cases found : sources.members Settings.fieldNames with
  | error cause =>
    have unread := sources.giving_unread (sources.requiring members).given _ cause found
    rw [load_unread _ _ cause found, Settings.load_unread (sources.requiring members) cause unread]
    rfl
  | ok held =>
    obtain ⟨again, read⟩ : ∃ again, (sources.requiring members).members Settings.fieldNames = .ok again := by
      refine ((sources.requiring members).members_read distinct).mpr fun cause unread => ?_
      exact (sources.members_read apart).mp ⟨held, found⟩ cause (unread.giving sources.given)
    have gathers := sources.members_gathered _ Settings.field_names_distinct apart held found
    have regathers := (sources.requiring members).members_gathered _ Settings.field_names_distinct distinct again read
    obtain ⟨all, required, given⟩ := sources.requiring_required members once
    have came := values_read sources held again all
      (fun field member other => by
        rw [gathers field member, regathers field member, sources.requiring_gathered members field other])
      ((regathers "required_annotations" (by decide)).trans required)
    rw [← given] at came
    cases outcome : Settings.read sources.machine sources.directory again with
    | error cause =>
      rw [outcome] at came
      rw [load_broken sources _ held found cause came,
        Settings.load_broken (sources.requiring members) again cause read outcome]
      rfl
    | ok checked =>
      rw [outcome] at came
      rw [load_checked sources _ held found _ came,
        Settings.load_checked (sources.requiring members) again checked read outcome, join_texted, reported_mapped]

/- What is kept -/

/-- How a text came to be kept: as a text that compiled, or as the text of bytes that compiled as bytes. -/
inductive Vetted (offer : Offer) : String × String → Prop where
  | text (key text : String) (pattern : Pattern)
    (checked : offer.sources.machine.compile .check text = .ok pattern) : Vetted offer (key, text)
  | bytes (key text : String) (content : ByteArray) (pattern : Pattern) (given : offer.GaveBytes key content)
    (checked : offer.sources.machine.compileBytes .checkBytes (GivenPattern.told content) = .ok pattern)
    (decoded : Utf8.decode content = .ok text) : Vetted offer (key, text)

theorem settings_vetted (sources : Sources) (settings : Settings) (loaded : Settings.load sources = .ok settings)
    (patterns : Option GivenPatterns) :
    ∀ entry ∈ settings.required.map RequiredAnnotation.written, Vetted ⟨sources, patterns⟩ entry := by
  obtain ⟨members, _, taken⟩ := Settings.load_ok sources settings loaded
  have compile : ∀ required ∈ settings.required, RequiredAnnotation.Compiles sources.machine required := by
    have read := taken.required
    cases said : lastOf members "required_annotations" with
    | none =>
      rw [said] at read
      rw [show settings.required = [] from read]
      exact nofun
    | some json =>
      rw [said] at read
      exact (( RequiredAnnotation.read_all_ok sources.machine json settings.required).mp read).compile
  intro entry member
  obtain ⟨required, listed, rfl⟩ := List.mem_map.mp member
  exact .text required.key required.text required.pattern (compile required listed)

theorem accepted_ok
    (checked : Checked (ServerSettings.Parts × Namespaces × CloudProvider × List (String × String)))
    (configuration : Configuration)
    (accepted : (titled Settings.title (checked.bind join)).mapError SettingsFailure.invalid = .ok configuration) :
    ∃ parts, checked = .ok parts ∧ join parts = .ok configuration := by
  cases checked with
  | error issues => cases accepted
  | ok parts =>
    cases joined : join parts with
    | error issues => simp only [Except.bind, joined, titled, Except.mapError, reduceCtorEq] at accepted
    | ok made =>
      simp only [Except.bind, joined, titled, Except.mapError, Except.ok.injEq] at accepted
      exact ⟨parts, rfl, accepted ▸ joined⟩

theorem patterns_read (sources : Sources) (patterns : GivenPatterns) (configuration : Configuration)
    (loaded : load ⟨sources, some patterns⟩ = .ok configuration) :
    GivenPattern.readAll sources.machine (Offer.gathered ⟨sources, some patterns⟩ patterns) =
      .ok (.ok configuration.required) := by
  cases found : sources.members Settings.fieldNames with
  | error cause =>
    rw [load_unread sources patterns cause found] at loaded
    cases loaded
  | ok members =>
    cases came : Settings.readWith sources.directory members ((GivenPattern.readAll sources.machine
        (Offer.gathered ⟨sources, some patterns⟩ patterns)).under "required_annotations") with
    | error cause =>
      rw [load_broken sources patterns members found cause came] at loaded
      cases loaded
    | ok checked =>
      rw [load_checked sources patterns members found checked came] at loaded
      obtain ⟨parts, rfl, joined⟩ := accepted_ok checked configuration loaded
      obtain ⟨server, _, rfl⟩ := (map_ok _ _ _).mp joined
      simp only [Settings.readWith, Attempt.both_ok] at came
      exact (Attempt.under_ok _ _ _).mp came.2.2.2

theorem load_vetted (offer : Offer) (configuration : Configuration) (loaded : load offer = .ok configuration) :
    ∀ entry ∈ configuration.required, Vetted offer entry := by
  obtain ⟨sources, patterns⟩ := offer
  cases patterns with
  | none =>
    obtain ⟨settings, found, rfl⟩ := (map_ok _ _ _).mp loaded
    exact settings_vetted sources settings found none
  | some patterns =>
    intro entry member
    obtain ⟨key, text⟩ := entry
    obtain ⟨given, located, right, held⟩ := GivenPattern.read_all_member sources.machine _ _
      (patterns_read sources patterns configuration loaded) (key, text) member
    cases given with
    | value json =>
      obtain ⟨pattern, compiled⟩ := GivenPattern.checked_value sources.machine key text json right held
      exact .text key text pattern compiled
    | bytes content =>
      obtain ⟨⟨pattern, compiled⟩, decoded⟩ := GivenPattern.checked_bytes sources.machine key text content right held
      have gave := Offer.gathered_bytes ⟨sources, some patterns⟩ patterns key content located
      exact .bytes key text content pattern ⟨patterns, rfl, gave⟩ compiled decoded

/- The texts when they are used -/

section

variable (machine : Machine)

theorem compiled_texts_ok (texts : List (String × String)) (required : List RequiredAnnotation) :
    compiledTexts machine texts = .ok required ↔ texts = required.map RequiredAnnotation.written ∧
      ∀ entry ∈ required, machine.compile .use entry.text = .ok entry.pattern := by
  induction texts generalizing required with
  | nil => cases required <;> simp [compiledTexts]
  | cons entry rest ih =>
    obtain ⟨key, text⟩ := entry
    constructor
    · intro made
      obtain ⟨pattern, compiled, made⟩ := (Json.bind_eq_ok _ _ _).mp made
      obtain ⟨others, later, made⟩ := (Json.bind_eq_ok _ _ _).mp made
      cases made
      obtain ⟨rfl, every⟩ := (ih others).mp later
      exact ⟨rfl, List.forall_mem_cons.mpr ⟨compiled, every⟩⟩
    · rintro ⟨listed, every⟩
      cases required with
      | nil => cases listed
      | cons first others =>
        obtain ⟨here, rfl⟩ := List.cons.inj listed
        cases here
        rw [List.forall_mem_cons] at every
        rw [compiledTexts, every.1]
        simp only [bind, Except.bind, (ih others).mpr ⟨rfl, every.2⟩]
        rfl

-- The first text that does not compile decides.
theorem compiled_texts_error (texts : List (String × String)) (cause : Halt PatternText.Invalid) :
    compiledTexts machine texts = .error cause ↔ ∃ before entry after, texts = before ++ entry :: after ∧
      (∀ earlier ∈ before, ∃ pattern, machine.compile .use earlier.2 = .ok pattern) ∧
      machine.compile .use entry.2 = .error cause := by
  induction texts with
  | nil => simp [compiledTexts]
  | cons entry rest ih =>
    obtain ⟨key, text⟩ := entry
    constructor
    · intro failed
      cases compiled : machine.compile .use text with
      | error found =>
        rw [compiledTexts, compiled] at failed
        cases failed
        exact ⟨[], (key, text), rest, rfl, nofun, compiled⟩
      | ok pattern =>
        cases later : compiledTexts machine rest with
        | ok others => simp [compiledTexts, compiled, later, bind, Except.bind, pure, Except.pure] at failed
        | error found =>
          simp only [compiledTexts, compiled, later, bind, Except.bind] at failed
          cases failed
          obtain ⟨before, entry, after, rfl, every, refused⟩ := ih.mp later
          refine ⟨(key, text) :: before, entry, after, rfl, ?_, refused⟩
          exact List.forall_mem_cons.mpr ⟨⟨pattern, compiled⟩, every⟩
    · rintro ⟨before, entry, after, listed, every, refused⟩
      cases before with
      | nil =>
        obtain ⟨rfl, rfl⟩ := List.cons.inj listed
        rw [compiledTexts, refused]
        rfl
      | cons first before =>
        obtain ⟨rfl, rfl⟩ := List.cons.inj listed
        obtain ⟨⟨pattern, compiled⟩, every⟩ := List.forall_mem_cons.mp every
        simp only [compiledTexts, compiled, bind, Except.bind, ih.mpr ⟨before, entry, after, rfl, every, refused⟩]

theorem compiled_texts_exist (texts : List (String × String)) :
    (∃ required, compiledTexts machine texts = .ok required) ↔
    ∀ entry ∈ texts, ∃ pattern, machine.compile .use entry.2 = .ok pattern := by
  constructor
  · rintro ⟨required, made⟩ entry member
    obtain ⟨rfl, every⟩ := (compiled_texts_ok machine texts required).mp made
    obtain ⟨used, listed, rfl⟩ := List.mem_map.mp member
    exact ⟨used.pattern, every used listed⟩
  · intro every
    cases made : compiledTexts machine texts with
    | ok required => exact ⟨required, rfl⟩
    | error cause =>
      obtain ⟨before, entry, after, rfl, _, failed⟩ := (compiled_texts_error machine texts cause).mp made
      obtain ⟨pattern, compiled⟩ := every entry (by simp)
      cases compiled.symm.trans failed

-- A text that compiled when it was checked compiles when it is used, if the stack is large enough.
theorem checked_used (text : String) (pattern : Pattern) (checked : machine.compile .check text = .ok pattern)
    (ample : machine.exhausted .use text = none) : machine.compile .use text = .ok pattern := by
  obtain ⟨_, read⟩ := (machine.within_ok .check text _ pattern).mp checked
  exact (machine.within_ok .use text _ pattern).mpr ⟨ample, read⟩

end

end Configuration
end Gatehouse
