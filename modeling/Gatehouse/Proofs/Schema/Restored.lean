import Gatehouse.Proofs.Schema.Document
import Gatehouse.Proofs.Schema.Lawful

/- Second documents. A number that is not finite is written as null, so a value may come back from its document as
   another one. It always comes back, no such number is left in what it comes back as, and the document is the same
   again unless such a number stands in a field by itself: its null is a null field, which the second document leaves
   out. -/
namespace Gatehouse

namespace Json

-- A number that is not finite, itself and not within a container.
def isLost : Json → Bool
  | .float number => !number.isFinite
  | _ => false

theorem restored_whole (json : Json) (whole : json.finite = true) : json.restored = json := reread_finite _ json whole

theorem restored_array (items : List Json) : (Json.array items).restored = .array (items.map restored) :=
  congrArg Json.array (reread_items_map _ items)

def restoredMembers (members : Members) : Members := members.map fun (key, json) => (key, json.restored)

theorem restored_object (members : Members) : (Json.object members).restored = .object (restoredMembers members) :=
  congrArg Json.object (reread_members_map _ members)

theorem restored_keys (members : Members) : keysOf (restoredMembers members) = keysOf members := by
  simp [restoredMembers, keysOf]

theorem restored_null (json : Json) : json.restored.isNull = (json.isNull || json.isLost) := by
  cases json with
  | float number => cases number <;> rfl
  | _ => rfl

theorem lost_not_null (json : Json) (null : json.isNull = true) : json.isLost = false := by
  cases json with
  | null => rfl
  | _ => cases null

theorem restored_fits (room : Nat) (json : Json) (fits : json.Fits room) : json.restored.Fits room := by
  induction fits with
  | array room items every ih =>
    rw [restored_array]
    refine .array room _ fun item member => ?_
    obtain ⟨source, listed, rfl⟩ := List.mem_map.mp member
    exact ih source listed
  | object room members every ih =>
    rw [restored_object]
    refine .object room _ fun entry member => ?_
    obtain ⟨source, listed, rfl⟩ := List.mem_map.mp member
    exact ih source listed
  | float room number => cases number <;> simp [restored, reread]
  | null room => exact .null room
  | bool room value => exact .bool room value
  | int room value short => exact .int room value short
  | string room text => exact .string room text
  | noItems room => exact .noItems room
  | noMembers room => exact .noMembers room

mutual

theorem restored_finite (json : Json) : json.restored.finite = true := by
  cases json with
  | float number => cases number <;> rfl
  | array items =>
    rw [restored_array]
    exact (finite_items _).mpr (restored_items_finite items)
  | object members =>
    rw [restored_object]
    exact (finite_members _).mpr (restored_members_finite members)
  | null => rfl
  | bool truth => rfl
  | int number => rfl
  | string text => rfl

theorem restored_items_finite (items : List Json) : ∀ item ∈ items.map restored, item.finite = true := by
  cases items with
  | nil => simp
  | cons item rest => simpa using ⟨restored_finite item, by simpa using restored_items_finite rest⟩

theorem restored_members_finite (members : Members) : ∀ entry ∈ restoredMembers members, entry.2.finite = true := by
  cases members with
  | nil => simp [restoredMembers]
  | cons member rest =>
    obtain ⟨key, json⟩ := member
    have later := restored_members_finite rest
    intro entry listed
    rcases List.mem_cons.mp listed with rfl | listed
    · exact restored_finite json
    · exact later entry listed

end

mutual

-- A value without repeated keys has none when it comes back.
theorem restored_collapsed (json : Json) (settled : json.collapsed = json) :
    json.restored.collapsed = json.restored := by
  cases json with
  | float number => cases number <;> rfl
  | array items =>
    rw [collapsed, array.injEq, collapsed_items_entry] at settled
    rw [restored_array, collapsed, collapsed_items_entry, List.map_map]
    exact congrArg array (restored_items_collapsed items settled)
  | object members =>
    obtain ⟨distinct, every⟩ := collapsed_object members settled
    have entries := restored_members_collapsed members every
    rw [restored_object, collapsed, collapsed_members_fixed _ entries, merged_fixed]
    rwa [restored_keys]
  | null => rfl
  | bool truth => rfl
  | int number => rfl
  | string text => rfl

theorem restored_items_collapsed (items : List Json) (settled : items.map collapsed = items) :
    items.map (collapsed ∘ restored) = items.map restored := by
  cases items with
  | nil => rfl
  | cons item rest =>
    obtain ⟨first, later⟩ := List.cons.inj settled
    rw [List.map_cons, List.map_cons, restored_items_collapsed rest later, Function.comp, restored_collapsed item first]

theorem restored_members_collapsed (members : Members) (every : ∀ entry ∈ members, entry.2.collapsed = entry.2) :
    ∀ entry ∈ restoredMembers members, entry.2.collapsed = entry.2 := by
  cases members with
  | nil => simp [restoredMembers]
  | cons member rest =>
    obtain ⟨key, json⟩ := member
    have first := restored_collapsed json (every _ List.mem_cons_self)
    have later := restored_members_collapsed rest fun entry listed => every entry (List.mem_cons_of_mem _ listed)
    intro entry listed
    rcases List.mem_cons.mp listed with rfl | listed
    · exact first
    · exact later entry listed

end

mutual

-- The document does not tell a value from the one that it reads as.
theorem write_restored (json : Json) : write compact json.restored = write compact json := by
  cases json with
  | float number => cases number <;> rfl
  | array items => rw [restored_array, write, write, write_restored_items items]
  | object members => rw [restored_object, write, write, write_restored_members members]
  | null => rfl
  | bool truth => rfl
  | int number => rfl
  | string text => rfl

theorem write_restored_items (items : List Json) :
    writeItems compact (items.map restored) = writeItems compact items := by
  match items with
  | [] => rfl
  | [item] => exact write_restored item
  | item :: next :: rest =>
    have later := write_restored_items (next :: rest)
    rw [List.map_cons] at later
    rw [List.map_cons, List.map_cons, writeItems, writeItems, later, write_restored item]

theorem write_restored_members (members : Members) :
    writeMembers compact (restoredMembers members) = writeMembers compact members := by
  match members with
  | [] => rfl
  | [(key, json)] =>
    simp only [restoredMembers, List.map_cons, List.map_nil, writeMembers, write_restored json]
  | (key, json) :: next :: rest =>
    have later := write_restored_members (next :: rest)
    simp only [restoredMembers, List.map_cons] at later ⊢
    rw [writeMembers, writeMembers, later, write_restored json]

end

-- Values without such numbers have the same document only if they are the same value.
theorem text_determines (room : Nat) (left right : Json) (leftFits : left.Fits room) (rightFits : right.Fits room)
    (whole : left.finite = true) : left.text compact = right.text compact ↔ left = right.restored := by
  constructor
  · intro same
    have leftRead := read_text compact _ compact_loses left room leftFits
    rw [same, read_text compact _ compact_loses right room rightFits, Except.ok.injEq] at leftRead
    rw [← restored_whole left whole]
    exact leftRead.symm
  · rintro rfl
    rw [text, text, write_restored]

end Json

/- What comes back of a value of a shape: something in which every number is finite, written as the value was except
   for the fields whose values were lost. `settled` holds of the values that have no such field. -/

def Shape.Restores {α : Type} (shape : Shape α) (settled : α → Prop) : Prop :=
  ∀ value, shape.read (shape.write value) = .ok value → ∃ again,
    shape.read (shape.write value).restored = .ok again ∧ (shape.write again).finite = true ∧
      (shape.write again).isNull = (shape.write value).restored.isNull ∧
      (shape.write again = (shape.write value).restored ↔ settled value)

def Fields.Restores {β : Type} (fields : Fields β) (settled : β → Prop) : Prop :=
  fields.Lawful → fields.keys.Nodup → ∀ parts before, fields.Foreign before →
    fields.read (before ++ fields.shown parts) = .ok parts → ∃ again,
      (∀ other, fields.Foreign other →
        fields.read (other ++ Json.restoredMembers (fields.shown parts)) = .ok again) ∧
      (∀ entry ∈ fields.shown again, entry.2.finite = true) ∧
      (fields.shown again = Json.restoredMembers (fields.shown parts) ↔ settled parts)

-- A shape whose values all settle and are never a lost number by themselves.
def Shape.Steady {α : Type} (shape : Shape α) : Prop :=
  shape.Restores (fun _ => True) ∧ ∀ value, (shape.write value).isLost = false

/- Shapes that write no such number at all: their values come back as they were. -/

def Shape.Finite {α : Type} (shape : Shape α) : Prop := ∀ value, (shape.write value).finite = true

def Fields.Finite {β : Type} (fields : Fields β) : Prop := ∀ parts, ∀ entry ∈ fields.write parts, entry.2.finite = true

theorem optional_finite {α : Type} (inner : Shape α) (whole : inner.Finite) : (Shape.optional inner).Finite := by
  intro value
  cases value with
  | none => rfl
  | some content => exact whole content

theorem list_finite {α : Type} (item : Shape α) (whole : item.Finite) : (Shape.list item).Finite := by
  intro values
  refine (Json.finite_items _).mpr fun json listed => ?_
  obtain ⟨value, _, rfl⟩ := List.mem_map.mp listed
  exact whole value

theorem map_finite {α : Type} (item : Shape α) (whole : item.Finite) : (Shape.map item).Finite := by
  intro entries
  refine (Json.finite_members _).mpr fun entry listed => ?_
  obtain ⟨source, _, rfl⟩ := List.mem_map.mp listed
  exact whole source.2

theorem no_field_finite : Fields.nil.Finite := by
  simp [Fields.Finite, Fields.write]

theorem field_finite {α β : Type} (field : Field α) (shape : Shape α) (rest : Fields β) (whole : shape.Finite)
    (later : rest.Finite) : (Fields.cons field shape rest).Finite := by
  rintro ⟨first, others⟩ entry listed
  rcases List.mem_cons.mp listed with rfl | listed
  · exact whole first
  · exact later others entry listed

theorem record_finite {α β : Type} (fields : Fields β) (build : β → α) (parts : α → β) (rule : α → Option Fault)
    (whole : fields.Finite) : (Shape.record fields build parts rule).Finite :=
  fun value => (Json.finite_members _).mpr fun entry listed => whole (parts value) entry (List.mem_filter.mp listed).1

theorem finite_restores {α : Type} (shape : Shape α) (whole : shape.Finite) : shape.Restores fun _ => True := by
  intro value read
  refine ⟨value, ?_, whole value, ?_, ?_⟩ <;> rw [Json.restored_whole _ (whole value)]
  · exact read
  · simp

theorem finite_steady {α : Type} (shape : Shape α) (whole : shape.Finite) : shape.Steady := by
  refine ⟨finite_restores shape whole, fun value => ?_⟩
  have finite := whole value
  cases written : shape.write value with
  | float number =>
    rw [written] at finite
    simpa [Json.isLost, Json.finite] using finite
  | _ => rfl

/- Shapes of any values. -/

theorem restores_congr {α : Type} (shape : Shape α) (settled other : α → Prop) (restores : shape.Restores settled)
    (same : ∀ value, settled value ↔ other value) : shape.Restores other := by
  intro value read
  obtain ⟨again, found, whole, null, exact⟩ := restores value read
  exact ⟨again, found, whole, null, exact.trans (same value)⟩

theorem anything_restores : (Shape.leaf Format.anything).Restores fun _ => True := by
  intro json read
  have settled : json.collapsed = json := Except.ok.inj read
  refine ⟨json.restored, congrArg Except.ok (Json.restored_collapsed json settled), Json.restored_finite json, rfl, ?_⟩
  simp [Shape.write, Format.anything]

theorem members_steady : (Shape.leaf Format.members).Steady := by
  refine ⟨fun members read => ?_, fun _ => rfl⟩
  have settled : (Json.object members).collapsed = .object members := congrArg Json.object (Except.ok.inj read)
  have again := Json.restored_collapsed _ settled
  have whole := Json.restored_finite (.object members)
  have written : ((Shape.leaf Format.members).write members).restored = .object (Json.restoredMembers members) :=
    Json.restored_object members
  rw [Json.restored_object] at again whole
  refine ⟨Json.restoredMembers members, ?_, whole, ?_, ?_⟩ <;> rw [written]
  · exact congrArg Except.ok (Json.object.inj again)
  · rfl
  · simp [Shape.write, Format.members]

theorem optional_restores {α : Type} (inner : Shape α) (settled : α → Prop) (solid : inner.Solid)
    (kept : ∀ value, (inner.write value).isLost = false) (restores : inner.Restores settled) :
    (Shape.optional inner).Restores fun value => ∀ content, value = some content → settled content := by
  intro value read
  cases value with
  | none => exact ⟨none, rfl, rfl, rfl, by simp [Shape.write, Json.restored, Json.reread]⟩
  | some content =>
    have inside : inner.read (inner.write content) = .ok content := by
      rcases (optional_read inner _ _).mp read with ⟨_, nothing⟩ | ⟨_, found, accepted, same⟩
      · cases nothing
      · cases same
        exact accepted
    obtain ⟨again, found, whole, null, exact⟩ := restores content inside
    refine ⟨some again, (optional_read _ _ _).mpr (.inr ⟨?_, again, found, rfl⟩), whole, null, ?_⟩
    · rw [Shape.write, Json.restored_null, solid content, kept content]
      rfl
    · simpa [Shape.write] using exact

theorem optional_steady {α : Type} (inner : Shape α) (solid : inner.Solid) (steady : inner.Steady) :
    (Shape.optional inner).Steady := by
  refine ⟨restores_congr _ _ _ (optional_restores inner _ solid steady.2 steady.1) (by simp), fun value => ?_⟩
  cases value with
  | none => rfl
  | some content => exact steady.2 content

theorem list_restores {α : Type} (item : Shape α) (settled : α → Prop) (restores : item.Restores settled) :
    (Shape.list item).Restores fun values => ∀ value ∈ values, settled value := by
  intro values read
  have each : ∀ value ∈ values, item.read (item.write value) = .ok value := by
    have results := (Checked.all_ok _ _).mp read
    intro value member
    obtain ⟨place, inside, rfl⟩ := List.getElem_of_mem member
    have result := congrArg (·[place]?) results
    simpa [inside, Checked.under_ok] using result
  clear read
  choose! again found whole null exact using fun value member => restores value (each value member)
  refine ⟨values.map again, ?_, ?_, rfl, ?_⟩
  · rw [Shape.write, Json.restored_array, Shape.read, Checked.all_ok]
    apply List.ext_getElem
    · simp
    · intro place inside _
      have bound : place < values.length := by simpa using inside
      simp [found _ (List.getElem_mem bound), Checked.under]
  · refine (Json.finite_items _).mpr fun json member => ?_
    obtain ⟨value, listed, rfl⟩ := by simpa using member
    exact whole value listed
  · rw [Shape.write, Shape.write, Json.restored_array, Json.array.injEq, List.map_map, List.map_map,
      List.map_inj_left]
    exact forall₂_congr exact

theorem list_steady {α : Type} (item : Shape α) (steady : item.Restores fun _ => True) : (Shape.list item).Steady :=
  ⟨restores_congr _ _ _ (list_restores item _ steady) (by simp), fun _ => rfl⟩

/- Fields. -/

theorem fields_restores_congr {β : Type} (fields : Fields β) (settled other : β → Prop)
    (restores : fields.Restores settled) (same : ∀ parts, settled parts ↔ other parts) : fields.Restores other := by
  intro lawful distinct parts before foreign read
  obtain ⟨again, found, whole, exact⟩ := restores lawful distinct parts before foreign read
  exact ⟨again, found, whole, exact.trans (same parts)⟩

theorem no_field_restores : Fields.nil.Restores fun _ => True :=
  fun _ _ _ _ _ _ => ⟨(), fun _ _ => rfl, by simp [Fields.shown, Fields.write], by
    simp [Fields.shown, Fields.write, Json.restoredMembers]⟩

-- The members of a part that came back, beside those that were read: a lost number is read as null and then left out.
theorem shown_again {α β : Type} (field : Field α) (shape : Shape α) (rest : Fields β) (first again : α)
    (others following : β) (written : (shape.write first).isNull = false)
    (empty : (shape.write again).isNull = (shape.write first).restored.isNull) :
    (Fields.cons field shape rest).shown (again, following) =
        Json.restoredMembers ((Fields.cons field shape rest).shown (first, others)) ↔
      ((shape.write first).isLost = false ∧ shape.write again = (shape.write first).restored) ∧
        rest.shown following = Json.restoredMembers (rest.shown others) := by
  rw [shown_cons, shown_cons, written, empty, Json.restored_null, written, Bool.false_or]
  show _ = (field.key, (shape.write first).restored) :: Json.restoredMembers (rest.shown others) ↔ _
  cases lost : (shape.write first).isLost with
  | false => simp
  | true =>
    simp only [if_true, false_and, iff_false, reduceCtorEq]
    intro same
    -- No member that is shown is null.
    have listed : (field.key, (shape.write first).restored) ∈ rest.shown following := same ▸ List.mem_cons_self
    have solid := (List.mem_filter.mp listed).2
    simp [Json.restored_null, lost] at solid

theorem field_restores {α β : Type} (field : Field α) (shape : Shape α) (rest : Fields β) (settled : α → Prop)
    (others : β → Prop) (bare : ∀ value, (shape.write value).isNull = true → settled value)
    (restores : shape.Restores settled) (later : rest.Restores others) :
    (Fields.cons field shape rest).Restores fun parts =>
      ((shape.write parts.1).isLost = false ∧ settled parts.1) ∧ others parts.2 := by
  rintro ⟨_, restLawful, _, droppable⟩ distinct ⟨first, more⟩ before foreign read
  obtain ⟨restDistinct, own⟩ := keys_apart field shape rest distinct
  obtain ⟨_, restForeign⟩ := foreign_rest field shape rest before foreign
  have apart (key : String) (member : key ∈ field.keys) : key ∉ keysOf (Json.restoredMembers (rest.shown more)) := by
    rw [Json.restored_keys]
    exact shown_foreign rest more key (own key member)
  have ownKey : field.key ∈ field.keys := List.mem_cons_self
  rw [shown_read_cons field shape rest first first more more before distinct foreign] at read
  cases null : (shape.write first).isNull with
  | true =>
    -- A part that is not written is filled in both times.
    have shown (parts : β) : (Fields.cons field shape rest).shown (first, parts) = rest.shown parts := by
      rw [shown_cons, if_pos null]
    rw [if_pos null] at read
    obtain ⟨again, found, whole, exact⟩ := later restLawful restDistinct more before restForeign read.2
    refine ⟨(first, again), fun other unread => ?_, shown again ▸ whole, ?_⟩
    · obtain ⟨unclaimed, otherForeign⟩ := foreign_rest field shape rest other unread
      rw [shown]
      exact (absent_read field shape rest _ _ _ _ unclaimed apart).mpr ⟨droppable first null, found other otherForeign⟩
    · rw [shown, shown, exact]
      simp [Json.lost_not_null _ null, bare first null]
  | false =>
    have shown : (Fields.cons field shape rest).shown (first, more) =
        (field.key, shape.write first) :: rest.shown more := by simp [shown_cons, null]
    rw [if_neg (by simp [null])] at read
    obtain ⟨again, found, whole, empty, exact⟩ := restores first read.1
    obtain ⟨following, laterFound, laterWhole, laterExact⟩ := later restLawful restDistinct more _
      (foreign_append rest before field.key _ restForeign (own _ ownKey)) read.2
    refine ⟨(again, following), fun other unread => ?_, ?_, ?_⟩
    · obtain ⟨_, otherForeign⟩ := foreign_rest field shape rest other unread
      rw [shown]
      refine (present_read field shape rest _ _ _ _ _ (apart _ ownKey)).mpr ⟨found, ?_⟩
      rw [List.append_cons]
      exact laterFound _ (foreign_append rest other field.key _ otherForeign (own _ ownKey))
    · intro entry listed
      rw [shown_cons] at listed
      split at listed
      · exact laterWhole entry listed
      · rcases List.mem_cons.mp listed with rfl | listed
        · exact whole
        · exact laterWhole entry listed
    · rw [shown_again field shape rest first again more following null empty, exact, laterExact]

theorem steady_field {α β : Type} (field : Field α) (shape : Shape α) (rest : Fields β) (others : β → Prop)
    (steady : shape.Steady) (later : rest.Restores others) :
    (Fields.cons field shape rest).Restores fun parts => others parts.2 :=
  fields_restores_congr _ _ _ (field_restores field shape rest _ others (fun _ _ => trivial) steady.1 later)
    fun parts => by simp [steady.2 parts.1]

-- One field decides whether the record settles.
theorem only_field {α β : Type} (field : Field α) (shape : Shape α) (rest : Fields β) (settled : α → Prop)
    (bare : ∀ value, (shape.write value).isNull = true → settled value) (restores : shape.Restores settled)
    (later : rest.Restores fun _ => True) : (Fields.cons field shape rest).Restores fun parts =>
      (shape.write parts.1).isLost = false ∧ settled parts.1 :=
  fields_restores_congr _ _ _ (field_restores field shape rest settled _ bare restores later)
    fun _ => and_iff_left trivial

theorem record_restores {α β : Type} (fields : Fields β) (build : β → α) (parts : α → β) (settled : β → Prop)
    (lawful : (Shape.plain fields build parts).Lawful) (restores : fields.Restores settled) :
    (Shape.plain fields build parts).Restores fun value => settled (parts value) := by
  obtain ⟨fieldsLawful, distinct, rebuilt⟩ := lawful
  intro value read
  obtain ⟨whole, found, accepted⟩ := (record_read fields build parts _ _ value).mp read
  obtain ⟨rfl, _⟩ := (ruled_ok _ _ _).mp accepted
  have shown : (Shape.plain fields build parts).write (build whole) = .object (fields.shown whole) := by
    rw [Shape.plain, Shape.write, rebuilt]
    rfl
  rw [rebuilt] at found
  obtain ⟨again, reread, finite, exact⟩ := restores fieldsLawful distinct whole [] (fun _ _ => rfl) found
  have written : (Shape.plain fields build parts).write (build again) = .object (fields.shown again) := by
    rw [Shape.plain, Shape.write, rebuilt]
    rfl
  refine ⟨build again, ?_, ?_, ?_, ?_⟩
  · rw [shown, Json.restored_object, Shape.plain, record_read]
    exact ⟨again, reread [] fun _ _ => rfl, rfl⟩
  · rw [written]
    exact (Json.finite_members _).mpr finite
  · rw [written, shown, Json.restored_object]
    rfl
  · rw [written, shown, Json.restored_object, Json.object.injEq]
    simpa only [rebuilt] using exact

theorem record_steady {α β : Type} (fields : Fields β) (build : β → α) (parts : α → β)
    (lawful : (Shape.plain fields build parts).Lawful) (restores : fields.Restores fun _ => True) :
    (Shape.plain fields build parts).Steady :=
  ⟨record_restores fields build parts _ lawful restores, fun _ => rfl⟩

end Gatehouse
