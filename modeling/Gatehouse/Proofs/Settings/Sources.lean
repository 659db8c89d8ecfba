import Gatehouse.Proofs.Json.Members
import Gatehouse.Settings.Sources

/- What the sources say of a setting: the values that were given first, then the environment, then the file of
   variables. The first that has the setting gives it; only where two of them give members is one laid over the
   other. -/
namespace Gatehouse

-- One value of a setting over another, where there are such.
def covering : Option Json → Option Json → Option Json
  | low, none => low
  | none, some high => some high
  | some low, some high => some (Json.overlay low high)

theorem covering_text (low : Option String) (high : Option Json) :
    covering (low.map .string) high = high.or (low.map .string) := by
  cases high with
  | none => cases low <;> rfl
  | some high =>
    cases low with
    | none => rfl
    | some text => cases high <;> rfl

theorem covering_over_none (high : Option Json) : covering none high = high := by
  cases high <;> rfl

theorem covering_none_iff (low high : Option Json) : covering low high = none ↔ high = none ∧ low = none := by
  cases low <;> cases high <;> simp [covering]

theorem overlay_plain (low high : Json) (plain : ∀ members, high ≠ .object members) : Json.overlay low high = high := by
  cases high with
  | object members => exact absurd rfl (plain members)
  | null | bool | int | float | string | array => simp only [Json.overlay]

theorem overlay_text (low high : Json) (text : String) : Json.overlay low high = .string text ↔ high = .string text := by
  cases high with
  | object members => cases low <;> simp [Json.overlay]
  | null | bool | int | float | string | array => simp [Json.overlay]

theorem covering_first (low high : Option Json) (plain : ∀ members, high.or low ≠ some (.object members)) :
    covering low high = high.or low := by
  cases high with
  | none => cases low <;> rfl
  | some high =>
    cases low with
    | none => rfl
    | some low =>
      have covers : ∀ members, high ≠ .object members := fun members same => plain members (by rw [same]; rfl)
      rw [covering, overlay_plain low high covers]
      rfl

theorem covering_text_iff (low high : Option Json) (text : String) :
    covering low high = some (.string text) ↔ high.or low = some (.string text) := by
  cases high with
  | none => cases low <;> rfl
  | some high =>
    cases low with
    | none => rfl
    | some low => simp [covering, overlay_text]

theorem overlay_distinct (low high : Members) (distinct : (keysOf low).Nodup) :
    (keysOf (Json.overlayMembers low high)).Nodup := by
  induction high generalizing low with
  | nil => exact distinct
  | cons entry rest ih =>
    obtain ⟨key, value⟩ := entry
    rw [Json.overlayMembers]
    split
    · exact ih _ (put_distinct low key _ distinct)
    · exact ih _ (put_distinct low key _ distinct)

theorem last_of_overlay (low high : Members) (key : String) (distinct : (keysOf low).Nodup)
    (once : (keysOf high).Nodup) :
    lastOf (Json.overlayMembers low high) key = covering (lastOf low key) (lastOf high key) := by
  induction high generalizing low with
  | nil => rfl
  | cons entry rest ih =>
    obtain ⟨place, value⟩ := entry
    simp only [keys_of_cons, List.nodup_cons] at once
    have laid : ∃ top, covering (lastOf low place) (some value) = some top ∧
        Json.overlayMembers low ((place, value) :: rest) = Json.overlayMembers (put low place top) rest := by
      rw [Json.overlayMembers]
      cases lastOf low place with
      | none => exact ⟨value, rfl, rfl⟩
      | some lower => exact ⟨Json.overlay lower value, rfl, rfl⟩
    obtain ⟨top, covers, laid⟩ := laid
    rw [laid, ih _ (put_distinct low place top distinct) once.2, last_of_put _ _ _ _ distinct, lastOf]
    by_cases same : place = key
    · subst same
      rw [last_of_absent rest place once.1, if_pos rfl]
      simp only [beq_self_eq_true, if_true]
      exact covers.symm
    · rw [if_neg same]
      cases lastOf rest key <;> simp [same]

namespace Sources

section

variable (machine : Machine) (source : Source) (assigned : Variables)

theorem settings_entries (fields : List String) (distinct : fields.Nodup) (members : Members)
    (read : settingsOf machine source assigned fields = .ok members) :
    (keysOf members).Sublist fields ∧
      ∀ field ∈ fields, settingOf machine source assigned field = .ok (lastOf members field) := by
  induction fields generalizing members with
  | nil =>
    cases read
    exact ⟨.slnil, nofun⟩
  | cons field rest ih =>
    rw [List.nodup_cons] at distinct
    obtain ⟨value, first, read⟩ := (Json.bind_eq_ok _ _ _).mp read
    obtain ⟨others, later, read⟩ := (Json.bind_eq_ok _ _ _).mp read
    obtain ⟨keys, found⟩ := ih distinct.2 others later
    have made : entering field value others = members := by cases value <;> cases read <;> rfl
    have absent : field ∉ keysOf others := fun member => distinct.1 (keys.subset member)
    subst made
    refine ⟨keys_of_entering _ _ _ _ keys, fun other member => ?_⟩
    rw [last_of_entering _ _ _ absent]
    rcases List.mem_cons.mp member with rfl | member
    · rw [first, if_pos rfl]
    · have different : field ≠ other := fun same => distinct.1 (same ▸ member)
      rw [found other member, if_neg different]

theorem plain_setting (field : String) (plain : documentFields.contains field = false) :
    settingIn machine source assigned field = (valueOf? assigned field).map .string := by
  rw [settingIn, settingOf]
  cases valueOf? assigned field with
  | none => rfl
  | some text =>
    simp only [plain, Bool.false_eq_true, if_false, Option.map_some]
    rfl

end

section

variable (sources : Sources)

-- What the first source says that has the setting.
def first (field : String) : Option Json :=
  (lastOf sources.given field).or ((sources.inEnvironment field).or (sources.inFile field))

-- What all sources together say of the setting.
def gathered (field : String) : Option Json :=
  covering (sources.inFile field) (covering (sources.inEnvironment field) (lastOf sources.given field))

theorem gathered_first (field : String)
    (plain : documentFields.contains field = false ∨ ∀ members, sources.first field ≠ some (.object members)) :
    sources.gathered field = sources.first field := by
  rw [gathered, first]
  rcases plain with plain | plain
  · rw [inFile, inEnvironment, plain_setting _ _ _ _ plain, plain_setting _ _ _ _ plain, covering_text, covering_text,
      Option.or_assoc]
  · rw [first, ← Option.or_assoc] at plain
    have upper (members : Members) :
        (lastOf sources.given field).or (sources.inEnvironment field) ≠ some (.object members) :=
      fun same => plain members (by rw [same]; rfl)
    rw [← Option.or_assoc, covering_first _ _ upper, covering_first _ _ plain]

theorem members_entries (fields : List String) (distinct : fields.Nodup) (given : (keysOf sources.given).Nodup)
    (members : Members) (read : sources.members fields = .ok members) (field : String) (member : field ∈ fields) :
    ∃ environment file,
      settingOf sources.machine .environment sources.environmentVariables field = .ok environment ∧
      settingOf sources.machine .envFile sources.fileVariables field = .ok file ∧
      lastOf members field = covering file (covering environment (lastOf sources.given field)) := by
  obtain ⟨_, _, read⟩ := (Json.bind_eq_ok _ _ _).mp read
  obtain ⟨environment, readEnvironment, read⟩ := (Json.bind_eq_ok _ _ _).mp read
  obtain ⟨file, readFile, read⟩ := (Json.bind_eq_ok _ _ _).mp read
  cases read
  obtain ⟨environmentKeys, fromEnvironment⟩ := settings_entries _ _ _ _ distinct _ readEnvironment
  obtain ⟨fileKeys, fromFile⟩ := settings_entries _ _ _ _ distinct _ readFile
  refine ⟨_, _, fromEnvironment field member, fromFile field member, ?_⟩
  have once := environmentKeys.nodup distinct
  rw [last_of_overlay _ _ _ (fileKeys.nodup distinct) (overlay_distinct _ _ once), last_of_overlay _ _ _ once given]

theorem members_gathered (fields : List String) (distinct : fields.Nodup) (given : (keysOf sources.given).Nodup)
    (members : Members) (read : sources.members fields = .ok members) (field : String) (member : field ∈ fields) :
    lastOf members field = sources.gathered field := by
  obtain ⟨environment, file, fromEnvironment, fromFile, last⟩ :=
    members_entries sources fields distinct given members read field member
  rw [last, gathered, inFile, inEnvironment, settingIn, settingIn, fromEnvironment, fromFile]
  rfl

-- The text of a variable, looked for in the environment and then in the file.
def textOf? (field : String) : Option String :=
  (valueOf? sources.environmentVariables field).or (valueOf? sources.fileVariables field)

-- The same for a setting whose variables hold text.
def said (field : String) : Option Json := (lastOf sources.given field).or ((sources.textOf? field).map .string)

theorem plain_said (fields : List String) (distinct : fields.Nodup) (given : (keysOf sources.given).Nodup)
    (members : Members) (read : sources.members fields = .ok members) (field : String) (member : field ∈ fields)
    (plain : documentFields.contains field = false) : lastOf members field = sources.said field := by
  rw [members_gathered sources fields distinct given members read field member,
    sources.gathered_first field (.inl plain), first, inEnvironment, inFile, plain_setting _ _ _ _ plain,
    plain_setting _ _ _ _ plain, said, textOf?, Option.map_or]

end
end Sources
end Gatehouse
