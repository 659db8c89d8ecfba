import Gatehouse.CommandLine.Program
import Gatehouse.Proofs.Json.Members

/- A command that is carried out was entered with flags that could be read, and these override the settings that they
   stand for; a flag that is left out overrides nothing. -/
namespace Gatehouse.CommandLine

/-- The flags with which a command was entered. -/
structure Typed (arguments : List String) (which : Command) (given : Given) : Prop where
  entered : ∃ rest, leadingFlags arguments = some (false, which.name :: rest) ∧
    readFlags (helpFlag :: which.flags) rest = some given
  unhelped : helpAsked given = false
  alone : given.extra = false

theorem command_typed (which asked : Command) (rest : List String) (overrides : Members)
    (entered : commandRequest asked rest = .command which overrides) :
    asked = which ∧ ∃ given, readFlags (helpFlag :: which.flags) rest = some given ∧ helpAsked given = false ∧
      given.extra = false ∧ overrides? given which.flags = some overrides := by
  rw [commandRequest] at entered
  cases read : readFlags (helpFlag :: asked.flags) rest with
  | none => simp only [read, reduceCtorEq] at entered
  | some given =>
    cases helped : helpAsked given with
    | true => simp only [read, helped, if_true, reduceCtorEq] at entered
    | false =>
      cases extra : given.extra with
      | true => simp only [read, helped, extra, Bool.false_eq_true, if_true, if_false, reduceCtorEq] at entered
      | false =>
        cases made : overrides? given asked.flags with
        | none => simp only [read, helped, extra, made, Bool.false_eq_true, if_false, reduceCtorEq] at entered
        | some members =>
          simp only [read, helped, extra, made, Bool.false_eq_true, if_false] at entered
          cases entered
          exact ⟨rfl, given, read, helped, extra, made⟩

theorem request_typed (arguments : List String) (which : Command) (overrides : Members)
    (entered : request arguments = .command which overrides) :
    ∃ given, Typed arguments which given ∧ overrides? given which.flags = some overrides := by
  rw [request] at entered
  split at entered
  · cases entered
  · cases entered
  · cases entered
  · rename_i name rest leading
    split at entered
    · rename_i asked found
      obtain ⟨rfl, given, read, helped, extra, made⟩ := command_typed which asked rest overrides entered
      have named : asked.name = name := by simpa using List.find?_some found
      exact ⟨given, ⟨⟨rest, named ▸ leading, read⟩, helped, extra⟩, made⟩
    · split at entered <;> cases entered

theorem overrides_entries (given : Given) (flags : List Flag) (distinct : (flags.map Flag.setting).Nodup)
    (overrides : Members) (made : overrides? given flags = some overrides) :
    (keysOf overrides).Sublist (flags.map Flag.setting) ∧
      ∀ flag ∈ flags, settingOf? flag (valuesOf given flag) = some (lastOf overrides flag.setting) := by
  induction flags generalizing overrides with
  | nil =>
    cases made
    exact ⟨.slnil, nofun⟩
  | cons flag rest ih =>
    rw [List.map_cons, List.nodup_cons] at distinct
    obtain ⟨value, first, made⟩ := Option.bind_eq_some_iff.mp made
    obtain ⟨others, later, made⟩ := Option.bind_eq_some_iff.mp made
    obtain ⟨keys, found⟩ := ih distinct.2 others later
    have made : entering flag.setting value others = overrides := by cases value <;> cases made <;> rfl
    have absent : flag.setting ∉ keysOf others := fun member => distinct.1 (keys.subset member)
    subst made
    refine ⟨keys_of_entering _ _ _ _ keys, fun other member => ?_⟩
    rw [last_of_entering _ _ _ absent]
    rcases List.mem_cons.mp member with rfl | member
    · rw [first, if_pos rfl]
    · have different : flag.setting ≠ other.setting :=
        fun same => distinct.1 (same ▸ List.mem_map_of_mem member)
      rw [found other member, if_neg different]

theorem flag_omitted (flag : Flag) (values : List String) (value : Option Json) (kind : flag.kind ≠ .help)
    (set : settingOf? flag values = some value) : value = none ↔ values = [] := by
  rw [settingOf?] at set
  cases last : values.getLast? with
  | none =>
    have empty : values = [] := List.getLast?_eq_none_iff.mp last
    cases flagKind : flag.kind <;> simp_all
  | some text =>
    have given : values ≠ [] := by
      rintro rfl
      cases last
    rw [last] at set
    cases flagKind : flag.kind with
    | help => exact absurd flagKind kind
    | number =>
      simp only [flagKind, Option.map_eq_some_iff] at set
      obtain ⟨number, _, rfl⟩ := set
      simp [given]
    | text | path | switch | collected =>
      simp only [flagKind, Option.some.injEq] at set
      simp [← set, given]

theorem flag_settled (flag : Flag) (values : List String) (json : Json)
    (set : settingOf? flag values = some (some json)) : json.collapsed = json := by
  rw [settingOf?] at set
  cases last : values.getLast? with
  | none => cases kind : flag.kind <;> simp [kind, last] at set
  | some text =>
    rw [last] at set
    cases kind : flag.kind with
    | help => simp [kind] at set
    | number =>
      simp only [kind, Option.map_eq_some_iff] at set
      obtain ⟨number, _, same⟩ := set
      cases same
      rfl
    | collected =>
      simp only [kind, Option.some.injEq] at set
      subst set
      rw [Json.collapsed, Json.collapsed_items_entry, List.map_map]
      rfl
    | text | path | switch =>
      simp only [kind, Option.some.injEq] at set
      subst set
      rfl

/-- What a command overrides with the flags that it was entered with. -/
structure Flagged (given : Given) (which : Command) (overrides : Members) : Prop where
  settled : (Json.object overrides).collapsed = .object overrides
  taken : ∀ flag ∈ which.flags, settingOf? flag (valuesOf given flag) = some (lastOf overrides flag.setting)
  omitted : ∀ flag ∈ which.flags, lastOf overrides flag.setting = none ↔ valuesOf given flag = []
  foreign : ∀ field, field ∉ which.flags.map Flag.setting → lastOf overrides field = none

theorem flag_settings_distinct (which : Command) : (which.flags.map Flag.setting).Nodup := by
  cases which <;> decide

theorem flags_set (which : Command) : ∀ flag ∈ which.flags, flag.kind ≠ .help := by
  cases which <;> decide

theorem flags_override (given : Given) (which : Command) (overrides : Members)
    (made : overrides? given which.flags = some overrides) : Flagged given which overrides := by
  obtain ⟨keys, taken⟩ := overrides_entries given _ (flag_settings_distinct which) overrides made
  have distinct := keys.nodup (flag_settings_distinct which)
  refine ⟨?_, taken, fun flag member => ?_, fun field foreign => ?_⟩
  · have every : ∀ entry ∈ overrides, entry.2.collapsed = entry.2 := by
      rintro ⟨key, json⟩ member
      obtain ⟨flag, flagged, rfl⟩ := List.mem_map.mp (keys.subset (List.mem_map_of_mem member))
      have found := (last_of_iff overrides flag.setting json distinct).mpr member
      exact flag_settled flag _ json (found ▸ taken flag flagged)
    rw [Json.collapsed, Json.collapsed_members_fixed overrides every, merged_fixed overrides distinct]
  · exact flag_omitted flag _ _ (flags_set which flag member) (taken flag member)
  · exact last_of_absent overrides field fun member => foreign (keys.subset member)

end Gatehouse.CommandLine
