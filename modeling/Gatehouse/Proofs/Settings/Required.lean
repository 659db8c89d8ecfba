import Gatehouse.Settings.Reading

/- What is required of annotations, read from any value. A value says members by itself or, when it is a text, by the
   JSON in it. Each member is to be a text that compiles as a pattern, and the first that is not ends the reading; after
   that all keys and texts are to be of characters throughout. The reading ends in annotations, in issues or in a
   breakdown, and which of the three is told by the value and by what the program runs on. -/
namespace Gatehouse.RequiredAnnotation

variable (machine : Machine)

/- One member -/

-- Why the text of a pattern is refused.
inductive RefusedAt : String → Json → Fault → Prop where
  | flawed (key text : String) (flaw : PatternText.Flaw) (place : Option Nat)
    (compiled : machine.compile .check text = .error (.failed (.flawed flaw place))) :
    RefusedAt key (.string text) (.rejected ("Invalid pattern for annotation " ++ key ++ ": " ++
      (PatternText.Invalid.flawed flaw place).message text))
  | unusable (key text : String) (invalid : PatternText.Invalid)
    (compiled : machine.compile .check text = .error (.failed invalid))
    (unflawed : ∀ flaw place, invalid ≠ .flawed flaw place) (small : invalid ≠ .repeatTooLarge) :
    RefusedAt key (.string text) (.rejected (invalid.message text))

-- What a member must not be for the reading to end as it should.
inductive BreaksAt : Json → Breakdown → Prop where
  | notText (json : Json) (plain : ∀ text, json ≠ .string text) : BreaksAt json (.notPattern json)
  | repeatTooLarge (text : String) (compiled : machine.compile .check text = .error (.failed .repeatTooLarge)) :
    BreaksAt (.string text) .repeatTooLarge
  | exhausted (text message : String) (ended : machine.compile .check text = .error (.exhausted message)) :
    BreaksAt (.string text) (.exhausted message)

def entryOf (required : RequiredAnnotation) : String × Json := (required.key, .string required.text)

def Compiles (required : RequiredAnnotation) : Prop := machine.compile .check required.text = .ok required.pattern

theorem check_compiles (required : RequiredAnnotation) (compiles : Compiles machine required) :
    check machine required.entryOf = .ok (.ok required) := by
  rw [entryOf, check, compiles]
  rfl

theorem check_refused (key : String) (json : Json) (fault : Fault) (refused : RefusedAt machine key json fault) :
    check machine (key, json) = .ok (.error [.here fault]) := by
  cases refused with
  | flawed text flaw place compiled =>
    rw [check, compiled]
    rfl
  | unusable text invalid compiled unflawed small =>
    rw [check, compiled]
    cases invalid with
    | flawed flaw place => exact absurd rfl (unflawed flaw place)
    | repeatTooLarge => exact absurd rfl small
    | tooManyDigits | incompatibleFlags | incompatibleLocale => rfl

theorem check_breaks (key : String) (json : Json) (cause : Breakdown) (breaks : BreaksAt machine json cause) :
    check machine (key, json) = .error cause := by
  cases breaks with
  | notText _ plain =>
    cases json with
    | string text => exact absurd rfl (plain text)
    | null | bool | int | float | array | object => rfl
  | repeatTooLarge text compiled =>
    rw [check, compiled]
    rfl
  | exhausted text message ended =>
    rw [check, ended]
    rfl

theorem member_cases (key : String) (json : Json) :
    (∃ required, (key, json) = entryOf required ∧ Compiles machine required) ∨
      (∃ fault, RefusedAt machine key json fault) ∨ ∃ cause, BreaksAt machine json cause := by
  cases json with
  | string text =>
    cases compiled : machine.compile .check text with
    | ok pattern => exact .inl ⟨⟨key, text, pattern⟩, rfl, compiled⟩
    | error halt =>
      cases halt with
      | exhausted message => exact .inr (.inr ⟨_, .exhausted text message compiled⟩)
      | failed invalid =>
        cases invalid with
        | flawed flaw place => exact .inr (.inl ⟨_, .flawed key text flaw place compiled⟩)
        | repeatTooLarge => exact .inr (.inr ⟨_, .repeatTooLarge text compiled⟩)
        | tooManyDigits | incompatibleFlags | incompatibleLocale =>
          exact .inr (.inl ⟨_, .unusable key text _ compiled nofun nofun⟩)
  | null | bool | int | float | array | object => exact .inr (.inr ⟨_, .notText _ nofun⟩)

/- Members -/

-- The reading gets as far as this member: those before it are right.
inductive Reaches : Members → String → Json → Prop where
  | here (key : String) (json : Json) (rest : Members) : Reaches ((key, json) :: rest) key json
  | later (required : RequiredAnnotation) (rest : Members) (key : String) (json : Json)
    (compiles : Compiles machine required) (later : Reaches rest key json) :
    Reaches (required.entryOf :: rest) key json

theorem each_right (required : RequiredAnnotation) (rest : Members) (compiles : Compiles machine required) :
    Attempt.each (check machine) (required.entryOf :: rest) =
      (Attempt.each (check machine) rest).map (Except.map (required :: ·)) := by
  rw [Attempt.each, check_compiles machine required compiles]
  rcases Attempt.each (check machine) rest with cause | issues | others <;> rfl

theorem each_compiles (all : List RequiredAnnotation) (compile : ∀ required ∈ all, Compiles machine required) :
    Attempt.each (check machine) (all.map entryOf) = .ok (.ok all) := by
  induction all with
  | nil => rfl
  | cons required rest ih =>
    rw [List.forall_mem_cons] at compile
    rw [List.map_cons, each_right machine required _ compile.1, ih compile.2]
    rfl

theorem each_refused (members : Members) (key : String) (json : Json) (fault : Fault)
    (reaches : Reaches machine members key json) (refused : RefusedAt machine key json fault) :
    Attempt.each (check machine) members = .ok (.error [.here fault]) := by
  induction reaches with
  | here key json rest => rw [Attempt.each, check_refused machine key json fault refused]
  | later required rest key json compiles _ ih =>
    rw [each_right machine required rest compiles, ih refused]
    rfl

theorem each_breaks (members : Members) (key : String) (json : Json) (cause : Breakdown)
    (reaches : Reaches machine members key json) (breaks : BreaksAt machine json cause) :
    Attempt.each (check machine) members = .error cause := by
  induction reaches with
  | here key json rest => rw [Attempt.each, check_breaks machine key json cause breaks]
  | later required rest key json compiles _ ih =>
    rw [each_right machine required rest compiles, ih breaks]
    rfl

theorem members_cases (members : Members) :
    (∃ all : List RequiredAnnotation, members = all.map entryOf ∧ ∀ required ∈ all, Compiles machine required) ∨
      ∃ key json, Reaches machine members key json ∧
        ((∃ fault, RefusedAt machine key json fault) ∨ ∃ cause, BreaksAt machine json cause) := by
  induction members with
  | nil => exact .inl ⟨[], rfl, nofun⟩
  | cons member rest ih =>
    obtain ⟨key, json⟩ := member
    rcases member_cases machine key json with ⟨required, same, compiles⟩ | wrong
    · rw [same]
      rcases ih with ⟨all, rfl, compile⟩ | ⟨place, found, reaches, wrong⟩
      · exact .inl ⟨required :: all, rfl, List.forall_mem_cons.mpr ⟨compiles, compile⟩⟩
      · exact .inr ⟨place, found, .later required rest place found compiles reaches, wrong⟩
    · exact .inr ⟨key, json, .here key json rest, wrong⟩

/- Texts as they are kept -/

-- What is wrong with an annotation whose key or text is not of characters throughout.
def tornIssues (required : RequiredAnnotation) : List Issue :=
  (if Json.isWhole required.key then [] else [⟨[.key required.key, .key "[key]"], .notUnicode⟩]) ++
    if Json.isWhole required.text then [] else [⟨[.key required.key], .notUnicode⟩]

theorem issues_whole (required : RequiredAnnotation) :
    required.tornIssues = [] ↔ Json.isWhole required.key = true ∧ Json.isWhole required.text = true := by
  simp [tornIssues]

theorem kept_issues (required : RequiredAnnotation) :
    kept required = if required.tornIssues = [] then .ok required else .error required.tornIssues := by
  obtain ⟨key, text, pattern⟩ := required
  by_cases named : Json.isWhole key = true <;> by_cases written : Json.isWhole text = true <;>
    simp [kept, keptEntry, keptText, tornIssues, named, written, Checked.both, Checked.under, Checked.fault,
      Except.map, Issue.under, Issue.here]

theorem all_kept (all : List RequiredAnnotation) : Checked.all (all.map kept) =
    if all.flatMap tornIssues = [] then .ok all else .error (all.flatMap tornIssues) := by
  induction all with
  | nil => rfl
  | cons required rest ih =>
    rw [List.map_cons, Checked.all, ih, kept_issues, List.flatMap_cons]
    by_cases here : required.tornIssues = [] <;> by_cases there : rest.flatMap tornIssues = [] <;>
      simp [here, there, Checked.both]

theorem of_members_kept (all : List RequiredAnnotation) (compile : ∀ required ∈ all, Compiles machine required) :
    ofMembers machine (all.map entryOf) =
      .ok (if all.flatMap tornIssues = [] then .ok all else .error (all.flatMap tornIssues)) := by
  rw [ofMembers, each_compiles machine all compile, ← all_kept]
  rfl

/- Values -/

-- What a value says: itself, or what is written in it. A blank text says no members.
inductive Means : Json → Json → Prop where
  | plain (value : Json) (plain : ∀ text, value ≠ .string text) : Means value value
  | blank (text : String) (blank : Text.trim text.toList = []) : Means (.string text) (.object [])
  | written (text : String) (json : Json) (filled : Text.trim text.toList ≠ [])
    (read : machine.decode .annotations text = .ok json) : Means (.string text) json.collapsed

structure Holds (value : Json) (required : List RequiredAnnotation) : Prop where
  means : Means machine value (.object (required.map entryOf))
  compile : ∀ annotation ∈ required, Compiles machine annotation
  whole : required.flatMap tornIssues = []

inductive Refuses : Json → List Issue → Prop where
  | unread (text : String) (failure : Json.Failure) (filled : Text.trim text.toList ≠ [])
    (read : machine.decode .annotations text = .error (.failed failure)) :
    Refuses (.string text) [.here (.rejected (failure.message text))]
  | member (value : Json) (members : Members) (key : String) (json : Json) (fault : Fault)
    (means : Means machine value (.object members)) (reaches : Reaches machine members key json)
    (refused : RefusedAt machine key json fault) : Refuses value [.here fault]
  | torn (value : Json) (all : List RequiredAnnotation) (means : Means machine value (.object (all.map entryOf)))
    (compile : ∀ annotation ∈ all, Compiles machine annotation) (torn : all.flatMap tornIssues ≠ []) :
    Refuses value (all.flatMap tornIssues)

inductive Breaks : Json → Breakdown → Prop where
  | exhausted (text message : String) (filled : Text.trim text.toList ≠ [])
    (ended : machine.decode .annotations text = .error (.exhausted message)) :
    Breaks (.string text) (.exhausted message)
  | notMembers (value held : Json) (means : Means machine value held) (plain : ∀ members, held ≠ .object members) :
    Breaks value (.notMembers held)
  | member (value : Json) (members : Members) (key : String) (json : Json) (cause : Breakdown)
    (means : Means machine value (.object members)) (reaches : Reaches machine members key json)
    (breaks : BreaksAt machine json cause) : Breaks value cause

theorem means_members (members others : Members) (means : Means machine (.object members) (.object others)) :
    members = others := by
  cases means
  rfl

-- What a value says does not depend on what the program runs on, where it can be told.
theorem means_alike (changed : Machine) (value held other : Json) (means : Means machine value held)
    (again : Means changed value other) : held = other := by
  cases means with
  | plain _ plain =>
    cases again with
    | plain => rfl
    | blank text => exact absurd rfl (plain text)
    | written text => exact absurd rfl (plain text)
  | blank text blank =>
    cases again with
    | plain _ plain => exact absurd rfl (plain text)
    | blank => rfl
    | written _ _ filled => exact absurd blank filled
  | written text json filled read =>
    cases again with
    | plain _ plain => exact absurd rfl (plain text)
    | blank _ blank => exact absurd blank filled
    | written _ json' _ again =>
      have same := ((machine.within_ok _ _ _ _).mp read).2.symm.trans ((changed.within_ok _ _ _ _).mp again).2
      rw [Except.ok.inj same]

theorem read_all_means (value held : Json) (means : Means machine value held) :
    readAll machine value = ofValue machine held := by
  cases means with
  | plain _ plain =>
    cases value with
    | string text => exact absurd rfl (plain text)
    | null | bool | int | float | array | object => rfl
  | blank text blank =>
    rw [readAll, blank]
    rfl
  | written text json filled read =>
    rw [readAll, if_neg (by simpa using filled)]
    simp only [read]

theorem of_value_breaks (held : Json) (plain : ∀ members, held ≠ .object members) :
    ofValue machine held = .error (.notMembers held) := by
  cases held with
  | object members => exact absurd rfl (plain members)
  | null | bool | int | float | string | array => rfl

theorem read_all_holds (value : Json) (required : List RequiredAnnotation) (holds : Holds machine value required) :
    readAll machine value = .ok (.ok required) := by
  rw [read_all_means machine value _ holds.means, ofValue, of_members_kept machine required holds.compile,
    if_pos holds.whole]

theorem read_all_refuses (value : Json) (issues : List Issue) (refuses : Refuses machine value issues) :
    readAll machine value = .ok (.error issues) := by
  cases refuses with
  | unread text failure filled read =>
    rw [readAll, if_neg (by simpa using filled)]
    simp only [read]
    rfl
  | member _ members key json fault means reaches refused =>
    rw [read_all_means machine value _ means, ofValue, ofMembers,
      each_refused machine members key json fault reaches refused]
    rfl
  | torn _ all means compile torn =>
    rw [read_all_means machine value _ means, ofValue, of_members_kept machine all compile, if_neg torn]

theorem read_all_breaks (value : Json) (cause : Breakdown) (breaks : Breaks machine value cause) :
    readAll machine value = .error cause := by
  cases breaks with
  | exhausted text message filled ended =>
    rw [readAll, if_neg (by simpa using filled)]
    simp only [ended]
  | notMembers _ held means plain =>
    rw [read_all_means machine value held means, of_value_breaks machine held plain]
  | member _ members key json _ means reaches breaks =>
    rw [read_all_means machine value _ means, ofValue, ofMembers,
      each_breaks machine members key json cause reaches breaks]
    rfl

/-- The three things that can come of a value. -/
inductive Verdict (value : Json) : Prop where
  | holds (required : List RequiredAnnotation) (holds : Holds machine value required)
  | refuses (issues : List Issue) (refuses : Refuses machine value issues)
  | breaks (cause : Breakdown) (breaks : Breaks machine value cause)

theorem members_verdict (value : Json) (members : Members) (means : Means machine value (.object members)) :
    Verdict machine value := by
  rcases members_cases machine members with
    ⟨all, rfl, compile⟩ | ⟨key, json, reaches, ⟨fault, refused⟩ | ⟨cause, breaks⟩⟩
  · by_cases whole : all.flatMap tornIssues = []
    · exact .holds all ⟨means, compile, whole⟩
    · exact .refuses _ (.torn value all means compile whole)
  · exact .refuses _ (.member value members key json fault means reaches refused)
  · exact .breaks cause (.member value members key json cause means reaches breaks)

theorem means_verdict (value held : Json) (means : Means machine value held) : Verdict machine value := by
  cases held with
  | object members => exact members_verdict machine value members means
  | null | bool | int | float | string | array => exact .breaks _ (.notMembers value _ means nofun)

theorem value_verdict (value : Json) : Verdict machine value := by
  cases value with
  | string text =>
    by_cases blank : Text.trim text.toList = []
    · exact means_verdict machine _ _ (.blank text blank)
    · cases read : machine.decode .annotations text with
      | ok json => exact means_verdict machine _ _ (.written text json blank read)
      | error halt =>
        cases halt with
        | failed failure => exact .refuses _ (.unread text failure blank read)
        | exhausted message => exact .breaks _ (.exhausted text message blank read)
  | null | bool | int | float | array | object => exact means_verdict machine _ _ (.plain _ nofun)

theorem read_all_ok (value : Json) (required : List RequiredAnnotation) :
    readAll machine value = .ok (.ok required) ↔ Holds machine value required := by
  refine ⟨fun read => ?_, read_all_holds machine value required⟩
  rcases value_verdict machine value with ⟨found, holds⟩ | ⟨issues, refuses⟩ | ⟨cause, breaks⟩
  · cases (read_all_holds machine value found holds).symm.trans read
    exact holds
  · cases (read_all_refuses machine value issues refuses).symm.trans read
  · cases (read_all_breaks machine value cause breaks).symm.trans read

theorem read_all_refused (value : Json) (issues : List Issue) :
    readAll machine value = .ok (.error issues) ↔ Refuses machine value issues := by
  refine ⟨fun read => ?_, read_all_refuses machine value issues⟩
  rcases value_verdict machine value with ⟨found, holds⟩ | ⟨others, refuses⟩ | ⟨cause, breaks⟩
  · cases (read_all_holds machine value found holds).symm.trans read
  · cases (read_all_refuses machine value others refuses).symm.trans read
    exact refuses
  · cases (read_all_breaks machine value cause breaks).symm.trans read

theorem read_all_broken (value : Json) (cause : Breakdown) :
    readAll machine value = .error cause ↔ Breaks machine value cause := by
  refine ⟨fun read => ?_, read_all_breaks machine value cause⟩
  rcases value_verdict machine value with ⟨found, holds⟩ | ⟨issues, refuses⟩ | ⟨other, breaks⟩
  · cases (read_all_holds machine value found holds).symm.trans read
  · cases (read_all_refuses machine value issues refuses).symm.trans read
  · cases (read_all_breaks machine value other breaks).symm.trans read
    exact breaks

end Gatehouse.RequiredAnnotation
