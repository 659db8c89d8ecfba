import Gatehouse.Proofs.Settings.Precedence
import Gatehouse.Proofs.Text

/- Namespaces that are listed in a text, a comma between two of them. A segment of blanks lists none, and the blanks
   around a name are no part of it. -/
namespace Gatehouse

/-- A namespace as a text can list it. -/
structure Listable (name : String) : Prop where
  filled : name.toList ≠ []
  whole : ',' ∉ name.toList
  tight : Text.Tight name.toList

/-- The segments of a text list these names, in this order. -/
inductive Lists : List (List Char) → Namespaces → Prop where
  | done : Lists [] []
  | blank (segment : List Char) (rest : List (List Char)) (names : Namespaces) :
      Text.Blank segment → Lists rest names → Lists (segment :: rest) names
  | name (lead trail : List Char) (name : String) (rest : List (List Char)) (names : Namespaces) :
      Text.Blank lead → Text.Blank trail → Listable name → Lists rest names →
      Lists ((lead ++ name.toList ++ trail) :: rest) (name :: names)

/-- A text is written as segments that have commas between them and none within. -/
structure Segmented (text : String) (segments : List (List Char)) : Prop where
  filled : segments ≠ []
  whole : ∀ segment ∈ segments, ',' ∉ segment
  joined : text.toList = [','].intercalate segments

theorem text_segmented (text : String) : Segmented text (Text.split ',' text.toList) :=
  ⟨Text.split_filled ',' text.toList, fun segment member => Text.split_whole ',' text.toList segment member,
    (Text.joined_split ',' text.toList).symm⟩

theorem segmented_split (text : String) (segments : List (List Char)) (segmented : Segmented text segments) :
    Text.split ',' text.toList = segments := by
  rw [segmented.joined]
  exact Text.split_joined ',' segments segmented.whole segmented.filled

-- The names in segments, as `namesOf` takes them.
def namesIn (segments : List (List Char)) : Namespaces :=
  ((segments.map Text.trim).filter fun name => !name.isEmpty).map String.ofList

theorem names_in_split (text : String) :
    (namesOf text.toList).map String.ofList = namesIn (Text.split ',' text.toList) := rfl

theorem names_in_cons (segment : List Char) (rest : List (List Char)) :
    namesIn (segment :: rest) =
      if Text.trim segment = [] then namesIn rest else String.ofList (Text.trim segment) :: namesIn rest := by
  by_cases blank : Text.trim segment = []
  · simp [namesIn, blank]
  · simp [namesIn, blank]

theorem names_in_lists (segments : List (List Char)) (whole : ∀ segment ∈ segments, ',' ∉ segment) :
    Lists segments (namesIn segments) := by
  induction segments with
  | nil => exact .done
  | cons segment rest ih =>
    have others := ih fun segment member => whole segment (List.mem_cons_of_mem _ member)
    rw [names_in_cons]
    by_cases blank : Text.trim segment = []
    · rw [if_pos blank]
      exact .blank segment rest _ ((Text.trim_nil_iff segment).mp blank) others
    · rw [if_neg blank]
      obtain ⟨lead, trail, leading, trailing, tight, parts⟩ := Text.trim_parts segment
      have here : ',' ∉ segment := whole segment List.mem_cons_self
      have inside : ',' ∉ Text.trim segment := fun member =>
        here (parts ▸ List.mem_append_left _ (List.mem_append_right _ member))
      have listable : Listable (String.ofList (Text.trim segment)) := by
        refine ⟨?_, ?_, ?_⟩ <;> rw [String.toList_ofList] <;> assumption
      have listed := Lists.name lead trail _ rest _ leading trailing listable others
      rwa [String.toList_ofList, ← parts] at listed

theorem lists_names_in (segments : List (List Char)) (names : Namespaces) (lists : Lists segments names) :
    namesIn segments = names := by
  induction lists with
  | done => rfl
  | blank segment rest names blank _ ih => rw [names_in_cons, if_pos ((Text.trim_nil_iff segment).mpr blank), ih]
  | name lead trail name rest names leading trailing listable _ ih =>
    rw [names_in_cons, Text.trim_tight lead _ trail leading trailing listable.tight, if_neg listable.filled, ih,
      String.ofList_toList]

theorem lists_listable (segments : List (List Char)) (names : Namespaces) (lists : Lists segments names) :
    ∀ name ∈ names, Listable name := by
  induction lists with
  | done => exact nofun
  | blank _ _ _ _ _ ih => exact ih
  | name _ _ name _ _ _ _ listable _ ih => exact List.forall_mem_cons.mpr ⟨listable, ih⟩

-- Names that are written without anything around them.
theorem names_list_themselves (names : Namespaces) (listable : ∀ name ∈ names, Listable name) :
    Lists (names.map String.toList) names := by
  induction names with
  | nil => exact .done
  | cons name rest ih =>
    have first := listable name List.mem_cons_self
    have others := ih fun name member => listable name (List.mem_cons_of_mem _ member)
    have listed := Lists.name [] [] name _ rest nofun nofun first others
    rwa [List.nil_append, List.append_nil] at listed

/-- The text lists these names. -/
def Written (text : String) (names : Namespaces) : Prop :=
  ∃ segments, Segmented text segments ∧ Lists segments names

theorem written_iff (text : String) (names : Namespaces) :
    Written text names ↔ readNames (.string text) = .ok (.ok names) := by
  rw [readNames, names_in_split, Except.ok.injEq, Except.ok.injEq]
  constructor
  · intro ⟨segments, segmented, lists⟩
    rw [segmented_split text segments segmented]
    exact lists_names_in segments names lists
  · intro same
    have segmented := text_segmented text
    exact ⟨_, segmented, same ▸ names_in_lists _ segmented.whole⟩

theorem written_joined (names : Namespaces) (listable : ∀ name ∈ names, Listable name) :
    Written (String.intercalate "," names) names := by
  -- Without names the text is empty, which is one segment of blanks.
  by_cases some : names = []
  · subst some
    exact ⟨[[]], ⟨by simp, by simp, by simp⟩, .blank [] [] [] nofun .done⟩
  · refine ⟨names.map String.toList, ⟨by simpa using some, fun segment member => ?_, by simp⟩,
      names_list_themselves names listable⟩
    obtain ⟨name, among, rfl⟩ := List.mem_map.mp member
    exact (listable name among).whole

theorem text_read_iff (json : Json) (text : String) : Format.text.read json = .ok text ↔ json = .string text := by
  cases json <;> simp [Format.text, Checked.fault]

-- Names that are given as a list are taken as they stand.
theorem items_read_iff (items : List Json) (names : Namespaces) :
    readNames (.array items) = .ok (.ok names) ↔ items = names.map .string := by
  rw [readNames, Except.ok.injEq, Checked.all_ok]
  constructor
  · intro same
    have long : items.length = names.length := by simpa using congrArg List.length same
    apply List.ext_getElem
    · simpa using long
    · intro place inside bound
      have read := congrArg (fun list => list[place]?) same
      rw [List.getElem_map]
      refine (text_read_iff _ _).mp ?_
      simpa [inside, long ▸ inside, Checked.under_ok] using read
  · rintro rfl
    apply List.ext_getElem
    · simp
    · intro place inside bound
      simp [Format.text, Checked.under]

/-- What a text of namespaces comes to. -/
structure Namespaces.Parsed (text : String) (names : Namespaces) : Prop where
  read : readNames (.string text) = .ok (.ok names)
  listable : ∀ name ∈ names, Listable name
  written : ∀ others, Written text others ↔ others = names
  rejoined : readNames (.string (String.intercalate "," names)) = .ok (.ok names)
  loaded : ∀ sources settings, (Json.object sources.given).collapsed = .object sources.given →
    sources.first "ignored_namespaces" = some (.string text) → Settings.load sources = .ok settings →
    settings.ignored = names

theorem namespaces_parsed (text : String) : ∃ names, Namespaces.Parsed text names := by
  obtain ⟨names, read⟩ : ∃ names, readNames (.string text) = .ok (.ok names) := ⟨_, rfl⟩
  have written := (written_iff text names).mpr read
  have listable : ∀ name ∈ names, Listable name := by
    obtain ⟨segments, _, lists⟩ := written
    exact lists_listable segments names lists
  refine ⟨names, read, listable, fun others => ?_, (written_iff _ _).mp (written_joined names listable),
    fun sources settings settled first loaded => ?_⟩
  · rw [written_iff, read]
    simp [eq_comm]
  · have taken := (Settings.load_gathered sources settings settled loaded).ignored
    rw [sources.gathered_first _ (.inl rfl), first] at taken
    have same : readNames (.string text) = .ok (.ok settings.ignored) := taken
    rw [read] at same
    exact (Except.ok.inj (Except.ok.inj same)).symm

-- No text lists the empty name, but a list of names may have it.
theorem blank_listed_iff (sources : Sources) (settings : Settings)
    (settled : (Json.object sources.given).collapsed = .object sources.given)
    (loaded : Settings.load sources = .ok settings) : "" ∈ settings.ignored ↔
      ∃ items, lastOf sources.given "ignored_namespaces" = some (.array items) ∧ .string "" ∈ items := by
  have taken := (Settings.load_gathered sources settings settled loaded).ignored
  rw [sources.gathered_first _ (.inl rfl)] at taken
  have from_text (text : String) (read : readNames (.string text) = .ok (.ok settings.ignored)) :
      "" ∉ settings.ignored := by
    obtain ⟨segments, _, lists⟩ := (written_iff text settings.ignored).mpr read
    exact fun member => (lists_listable segments _ lists "" member).filled rfl
  cases given : lastOf sources.given "ignored_namespaces" with
  | some json =>
    rw [Sources.first, given, Option.some_or] at taken
    have read : readNames json = .ok (.ok settings.ignored) := taken
    cases json with
    | string text => simp [from_text text read]
    | array items =>
      obtain rfl := (items_read_iff items settings.ignored).mp read
      simp
    | null | bool | int | float | object => cases read
  | none =>
    rw [Sources.first, given, Option.none_or, Sources.inEnvironment, Sources.inFile, Sources.plain_setting _ _ _ _ rfl,
      Sources.plain_setting _ _ _ _ rfl, ← Option.map_or] at taken
    cases said : (Sources.valueOf? sources.environmentVariables "ignored_namespaces").or
        (Sources.valueOf? sources.fileVariables "ignored_namespaces") with
    | none =>
      rw [said] at taken
      have none : settings.ignored = [] := taken
      simp [none]
    | some text =>
      rw [said] at taken
      simp [from_text text taken]

-- A name with a blank inside, and blanks and blank segments around the names.
def listing : Sources where
  given := []
  environment := [("ADMISSION_IGNORED_NAMESPACES", " kube-system ,, a b,\t")]
  directory := ⟨[], []⟩
  machine := .bare

theorem listing_parsed : ∃ settings, Settings.load listing = .ok settings ∧
    settings.ignored = ["kube-system", "a b"] ∧
    Namespaces.Parsed " kube-system ,, a b,\t" settings.ignored := by
  have loads : Settings.loadedWith (fun settings => settings.ignored == ["kube-system", "a b"])
      (Settings.load listing) = true := by decide +kernel
  obtain ⟨settings, loaded, looks⟩ := Settings.loaded_with _ _ loads
  obtain ⟨names, parsed⟩ := namespaces_parsed " kube-system ,, a b,\t"
  have same : settings.ignored = names := parsed.loaded listing settings rfl rfl loaded
  exact ⟨settings, loaded, eq_of_beq looks, same ▸ parsed⟩

end Gatehouse
