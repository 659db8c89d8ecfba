import Gatehouse.Journal.Loggers
import Gatehouse.Proofs.Text

/- Once the loggers are configured, each of them has one collector on its way to the root: its own, that of the nearest
   logger of the server, or the root's. Nothing on the way turns a record off, and a level is taken over under the name
   that libraries have for it. -/
namespace Gatehouse.Loggers

/- Loggers of a tree -/

theorem others_found (tree : Tree) (path other : LoggerPath) (apart : other ≠ path) :
    (tree.filter fun entry => entry.1 != path).lookup other = tree.lookup other := by
  induction tree with
  | nil => rfl
  | cons entry rest ih =>
    by_cases same : entry.1 = path
    · rw [List.filter_cons_of_neg (by simp [same]), ih, List.lookup_cons, same, beq_false_of_ne apart]
    · rw [List.filter_cons_of_pos (by simp [same]), List.lookup_cons, List.lookup_cons, ih]

theorem changed_logger (tree : Tree) (path other : LoggerPath) (settings : Logger → Logger) :
    loggerAt (change tree path settings) other =
      if other = path then settings (loggerAt tree path) else loggerAt tree other := by
  by_cases same : other = path
  · rw [if_pos same, same, loggerAt, change, List.lookup_cons, beq_self_eq_true]
    rfl
  · rw [if_neg same, loggerAt, change, List.lookup_cons, beq_false_of_ne same]
    show (List.lookup other (tree.filter fun entry => entry.1 != path)).getD bare = _
    rw [others_found tree path other same, loggerAt]

-- Settings that change nothing the second time may meet a path more than once.
theorem changed_loggers (tree : Tree) (paths : List LoggerPath) (other : LoggerPath) (settings : Logger → Logger)
    (twice : ∀ logger, settings (settings logger) = settings logger) :
    loggerAt (paths.foldl (fun tree path => change tree path settings) tree) other =
      if other ∈ paths then settings (loggerAt tree other) else loggerAt tree other := by
  induction paths generalizing tree with
  | nil => rfl
  | cons first rest ih =>
    rw [List.foldl_cons, ih, changed_logger]
    by_cases same : other = first
    · simp [same, twice]
    · simp [same]

theorem root_path (name : String) : pathOf name = [] ↔ name ∈ rootNames := by
  rw [pathOf]
  by_cases root : name ∈ rootNames
  · simp [root]
  · simp [root, Text.split_filled]

theorem server_below (path : LoggerPath) (listed : path ∈ serverPaths) : path ≠ [] := by
  obtain ⟨name, member, rfl⟩ := List.mem_map.mp listed
  have apart : ∀ name ∈ serverNames, name ∉ rootNames := by decide
  exact fun root => apart name member ((root_path name).mp root)

theorem configured_logger (tree : Tree) (path : LoggerPath) : loggerAt (configure tree) path =
    if path = [] then takingAll (loggerAt tree [])
    else if path ∈ serverPaths then collecting (loggerAt tree path)
    else loggerAt tree path := by
  rw [configure, changed_loggers _ _ _ collecting fun _ => rfl, changed_logger]
  by_cases root : path = []
  · rw [if_pos root, if_pos root, if_neg fun listed => server_below path listed root]
  · rw [if_neg root, if_neg root]

/- Configured loggers -/

/-- Nothing is set at these loggers but what configuring sets. -/
structure Untouched (tree : Tree) : Prop where
  level : ∀ path ∈ serverPaths, (loggerAt tree path).level = 0
  others : ∀ path, path ≠ [] → path ∉ serverPaths → loggerAt tree path = bare

/-- The root and the loggers of the server have one collector each, and no other logger has any. -/
structure Configured (tree : Tree) : Prop where
  root : (loggerAt tree []).level = 0 ∧ (loggerAt tree []).collectors = 1
  server : ∀ path ∈ serverPaths, loggerAt tree path = ⟨0, 1, true⟩
  others : ∀ path, path ≠ [] → path ∉ serverPaths → loggerAt tree path = bare

theorem initial_bare (path : LoggerPath) (below : path ≠ []) : loggerAt initial path = bare := by
  rw [loggerAt, initial, List.lookup_cons, beq_false_of_ne below]
  rfl

theorem initial_untouched : Untouched initial where
  level path member := by
    rw [initial_bare path (server_below path member)]
    rfl
  others path below _ := initial_bare path below

-- Without any configuring libraries are not heard.
theorem initial_met (path : LoggerPath) : met initial path = 0 := by
  induction path with
  | nil => rfl
  | cons part above ih =>
    rw [met, initial_bare _ (List.cons_ne_nil part above), ih]
    rfl

theorem configured_untouched (tree : Tree) (configured : Configured tree) : Untouched tree where
  level path member := by rw [configured.server path member]
  others := configured.others

theorem configure_configured (tree : Tree) (untouched : Untouched tree) : Configured (configure tree) where
  root := by
    rw [configured_logger, if_pos rfl]
    exact ⟨rfl, rfl⟩
  server path member := by
    rw [configured_logger, if_neg (server_below path member), if_pos member, collecting, untouched.level path member]
  others path below unlisted := by
    rw [configured_logger, if_neg below, if_neg unlisted, untouched.others path below unlisted]

-- The first logger of the server on the way keeps the record; where there is none the root takes it.
theorem configured_met (tree : Tree) (configured : Configured tree) (path : LoggerPath) : met tree path = 1 := by
  induction path with
  | nil => exact configured.root.2
  | cons part above ih =>
    rw [met]
    by_cases member : part :: above ∈ serverPaths
    · rw [configured.server _ member]
      rfl
    · rw [configured.others _ (List.cons_ne_nil part above) member, ih]
      rfl

theorem configured_level (tree : Tree) (configured : Configured tree) (path : LoggerPath) : levelAt tree path = 0 := by
  induction path with
  | nil => exact configured.root.1
  | cons part above ih =>
    have unset : (loggerAt tree (part :: above)).level = 0 := by
      by_cases member : part :: above ∈ serverPaths
      · rw [configured.server _ member]
      · rw [configured.others _ (List.cons_ne_nil part above) member]
        rfl
    rw [levelAt, if_pos unset, ih]

theorem configured_takers (tree : Tree) (configured : Configured tree) (name : String) (level : Int)
    (positive : 0 < level) : takers tree name level = 1 := by
  have lets : 0 < level ∧ levelAt tree (pathOf name) ≤ level := by
    rw [configured_level tree configured]
    exact ⟨positive, Int.le_of_lt positive⟩
  rw [takers, if_pos lets, configured_met tree configured]

theorem configured_log (tree : Tree) (configured : Configured tree) (call : LibraryCall) (positive : 0 < call.level) :
    log tree call =
      (Text.Percent.fill call.template call.values).map fun text => [⟨levelOf call.level, text⟩] := by
  have once := configured_takers tree configured call.logger call.level positive
  rw [log, once, if_neg Nat.one_ne_zero]
  simp only [collected, once, List.replicate_one]

/- Levels -/

/-- The level that a level of libraries comes to: the one of its name, or its number where no level has the name. -/
inductive Named (value : Int) : Level → Prop where
  | standing (level : Level) (member : level ∈ namedLevels) (same : level.name = libraryName value) : Named value level
  | numbered (unknown : ∀ level ∈ namedLevels, level.name ≠ libraryName value) : Named value (.numbered value)

theorem names_distinct (level other : Level) (member : level ∈ namedLevels) (otherMember : other ∈ namedLevels)
    (same : level.name = other.name) : level = other := by
  have distinct : ∀ level ∈ namedLevels, ∀ other ∈ namedLevels, level.name = other.name → level = other := by decide
  exact distinct level member other otherMember same

theorem level_named (value : Int) : Named value (levelOf value) := by
  rw [levelOf]
  cases found : namedLevels.find? (fun level => level.name == libraryName value) with
  | some level =>
    have same := @List.find?_some _ (fun level : Level => level.name == libraryName value) _ _ found
    exact .standing level (List.mem_of_find?_eq_some found) (beq_iff_eq.mp same)
  | none =>
    refine .numbered fun level member same => ?_
    exact List.find?_eq_none.mp found level member (beq_iff_eq.mpr same)

theorem named_once (value : Int) (level other : Level) (named : Named value level) (otherNamed : Named value other) :
    level = other := by
  cases named with
  | standing level member same =>
    cases otherNamed with
    | standing other otherMember otherSame =>
      exact names_distinct level other member otherMember (same.trans otherSame.symm)
    | numbered unknown => exact absurd same (unknown level member)
  | numbered unknown =>
    cases otherNamed with
    | standing other otherMember otherSame => exact absurd otherSame (unknown other otherMember)
    | numbered _ => rfl

theorem library_name_cases (value : Int) :
    (value, libraryName value) ∈ libraryNames ∨ libraryName value = "Level " ++ toString value := by
  rw [libraryName]
  cases found : libraryNames.lookup value with
  | some name =>
    obtain ⟨before, after, parted, _⟩ := List.lookup_eq_some_iff.mp found
    exact .inl (parted ▸ List.mem_append_right before List.mem_cons_self)
  | none => exact .inr rfl

-- No level has a name that begins as those of unnamed ones do.
theorem unnamed_apart (level : Level) (member : level ∈ namedLevels) (rest : String) : level.name ≠ "Level " ++ rest := by
  have apart : ∀ level ∈ namedLevels, level.name.toList.head? ≠ some 'L' := by decide
  intro same
  refine apart level member ?_
  rw [same, String.toList_append]
  rfl

theorem level_value (value : Int) (level : Level) (named : Named value level) : level.value = value := by
  have known : ∀ level ∈ namedLevels, ∀ entry ∈ libraryNames, level.name = entry.2 → level.value = entry.1 := by
    decide
  cases named with
  | standing level member same =>
    rcases library_name_cases value with listed | unnamed
    · exact known level member _ listed same
    · exact absurd (same.trans unnamed) (unnamed_apart level member _)
  | numbered _ => rfl

theorem level_name (value : Int) (level : Level) (named : Named value level) (positive : 0 < value) :
    level.name = libraryName value := by
  have known : ∀ entry ∈ libraryNames, 0 < entry.1 → ∃ level ∈ namedLevels, level.name = entry.2 := by decide
  cases named with
  | standing level member same => exact same
  | numbered unknown =>
    rcases library_name_cases value with listed | unnamed
    · obtain ⟨level, member, same⟩ := known _ listed positive
      exact absurd same (unknown level member)
    · exact unnamed.symm

end Gatehouse.Loggers
