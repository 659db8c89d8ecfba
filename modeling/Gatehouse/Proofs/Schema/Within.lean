import Gatehouse.Patch.Basic
import Gatehouse.Proofs.Relocation

/- A change inside a value. `Within` follows the shape down to one object that is read as a record and whose members
   are changed. Where that record is read alike before and after, so is the whole value, since every step of a reading
   respects how readings are compared. -/
namespace Gatehouse

namespace Checked

/-- A comparison of readings that every step of a reading respects. -/
structure Respected (alike : ∀ {α : Type}, Checked α → Checked α → Prop) : Prop where
  same : ∀ {α : Type} (checked : Checked α), alike checked checked
  under : ∀ {α : Type} (step : Step) (left right : Checked α), alike left right →
    alike (left.under step) (right.under step)
  both : ∀ {α β : Type} (left right : Checked α) (first second : Checked β), alike left right → alike first second →
    alike (left.both first) (right.both second)
  onward : ∀ {α β : Type} (left right : Checked α) (next : α → Checked β), alike left right →
    alike (left.bind next) (right.bind next)

-- Readings that give the same value or none.
def SameValue {α : Type} (left right : Checked α) : Prop := left.toOption = right.toOption

theorem equal_respected : Respected fun left right => left = right where
  same _ := rfl
  under _ _ _ := congrArg _
  both _ _ _ _ same also := congr (congrArg both same) also
  onward _ _ _ same := by rw [same]

theorem same_value_respected : Respected @SameValue where
  same _ := rfl
  under step left right same := by
    cases left <;> cases right <;> exact same
  both left right first second same also := by
    cases left <;> cases right <;> cases first <;> cases second <;> simp_all [SameValue, both, Except.toOption]
  onward left right next same := by
    cases left <;> cases right <;> simp_all [SameValue, Except.bind, Except.toOption]

end Checked

/- Where the change is -/

mutual

/-- The second value is the first with the members of one object changed that the shape reads as a record. -/
inductive Shape.Within (change : ∀ β : Type, Fields β → Members → Members → Prop) :
    ∀ {α : Type}, Shape α → Json → Json → Prop where
  | here {α β : Type} (fields : Fields β) (build : β → α) (parts : α → β) (rule : α → Option Fault)
    (members others : Members) (changed : change β fields members others) :
    Shape.Within change (.record fields build parts rule) (.object members) (.object others)
  | field {α β : Type} (fields : Fields β) (build : β → α) (parts : α → β) (rule : α → Option Fault)
    (members others : Members) (within : Fields.Within change fields members others) :
    Shape.Within change (.record fields build parts rule) (.object members) (.object others)
  | optional {α : Type} (inner : Shape α) (json other : Json) (within : Shape.Within change inner json other) :
    Shape.Within change (.optional inner) json other
  | item {α : Type} (item : Shape α) (before after : List Json) (json other : Json)
    (within : Shape.Within change item json other) :
    Shape.Within change (.list item) (.array (before ++ json :: after)) (.array (before ++ other :: after))
  | entry {α : Type} (item : Shape α) (before after : Members) (key : String) (json other : Json)
    (within : Shape.Within change item json other) :
    Shape.Within change (.map item) (.object (before ++ (key, json) :: after))
      (.object (before ++ (key, other) :: after))
  -- The patch of a response, where it is given as its operations.
  | operations (items others : List Json) (within : Shape.Within change Patch.shape (.array items) (.array others)) :
    Shape.Within change (.leaf (Patch.carried Patch.readCarried)) (.array items) (.array others)

/-- A change inside the value of one member that is looked up for a field. -/
inductive Fields.Within (change : ∀ β : Type, Fields β → Members → Members → Prop) :
    ∀ {β : Type}, Fields β → Members → Members → Prop where
  | first {α β : Type} (field : Field α) (shape : Shape α) (rest : Fields β) (before after : Members) (key : String)
    (json other : Json) (spelled : key ∈ field.keys) (within : Shape.Within change shape json other) :
    Fields.Within change (.cons field shape rest) (before ++ (key, json) :: after) (before ++ (key, other) :: after)
  | later {α β : Type} (field : Field α) (shape : Shape α) (rest : Fields β) (members others : Members)
    (within : Fields.Within change rest members others) :
    Fields.Within change (.cons field shape rest) members others

end

/- What a replaced member is to the lookups -/

section

variable (before after : Members) (key : String) (json other : Json)

theorem last_of_replaced_elsewhere (asked : String) (elsewhere : asked ≠ key) :
    lastOf (before ++ (key, json) :: after) asked = lastOf (before ++ (key, other) :: after) asked := by
  have foreign : (key == asked) = false := by simpa using elsewhere.symm
  simp only [last_of_append, lastOf, foreign, Bool.false_eq_true, if_false]

theorem last_of_replaced :
    lastOf (before ++ (key, json) :: after) key = lastOf (before ++ (key, other) :: after) key ∨
      (lastOf (before ++ (key, json) :: after) key = some json ∧
        lastOf (before ++ (key, other) :: after) key = some other) := by
  cases later : lastOf after key with
  | some value => exact .inl (by simp [last_of_append, lastOf, later])
  | none => exact .inr (by simp [last_of_append, lastOf, later])

theorem find_replaced {α : Type} (field : Field α) :
    field.find? (before ++ (key, json) :: after) = field.find? (before ++ (key, other) :: after) ∨
      (field.find? (before ++ (key, json) :: after) = some (key, json) ∧
        field.find? (before ++ (key, other) :: after) = some (key, other)) := by
  rw [Field.find?, Field.find?]
  induction field.keys with
  | nil => exact .inl rfl
  | cons asked rest ih =>
    rw [List.findSome?_cons, List.findSome?_cons]
    by_cases here : asked = key
    · subst here
      rcases last_of_replaced before after asked json other with same | ⟨left, right⟩
      · rw [same]
        cases lastOf (before ++ (asked, other) :: after) asked with
        | some value => exact .inl rfl
        | none => exact ih
      · rw [left, right]
        exact .inr ⟨rfl, rfl⟩
    · rw [last_of_replaced_elsewhere before after key json other asked here]
      cases lastOf (before ++ (key, other) :: after) asked with
      | some value => exact .inl rfl
      | none => exact ih

end

section

variable (change : ∀ β : Type, Fields β → Members → Members → Prop)

theorem fields_within_elsewhere {β : Type} (fields : Fields β) (members others : Members)
    (within : Fields.Within change fields members others) :
    ∃ key ∈ fields.keys, ∀ asked ≠ key, lastOf members asked = lastOf others asked := by
  refine @Fields.Within.rec change (fun _ _ _ _ => True)
    (fun fields members others _ => ∃ key ∈ fields.keys, ∀ asked ≠ key, lastOf members asked = lastOf others asked)
    ?_ ?_ ?_ ?_ ?_ ?_ ?first ?later β fields members others within
  case first =>
    intro α β field shape rest before after key json other spelled _ _
    exact ⟨key, List.mem_append_left _ spelled, last_of_replaced_elsewhere before after key json other⟩
  case later =>
    intro α β field shape rest members others _ found
    obtain ⟨key, member, elsewhere⟩ := found
    exact ⟨key, List.mem_append_right _ member, elsewhere⟩
  all_goals intros; trivial

-- A value with a record in it is not null.
theorem within_filled {α : Type} (shape : Shape α) (json other : Json)
    (within : Shape.Within change shape json other) : json.isNull = false ∧ other.isNull = false := by
  refine @Shape.Within.rec change (fun _ json other _ => json.isNull = false ∧ other.isNull = false)
    (fun _ _ _ _ => True) ?_ ?_ ?optional ?_ ?_ ?_ ?_ ?_ α shape json other within
  case optional =>
    intro α inner json other _ filled
    exact filled
  all_goals intros; first | exact ⟨rfl, rfl⟩ | trivial

end

theorem optional_filled {α : Type} (inner : Shape α) (json : Json) (filled : json.isNull = false) :
    (Shape.optional inner).read json = (inner.read json).map some := by
  cases json with
  | null => cases filled
  | bool | int | float | string | array | object => rfl

/- Readings of such values -/

section

variable {alike : ∀ {α : Type}, Checked α → Checked α → Prop} (respected : Checked.Respected @alike)

include respected

theorem mapped_alike {α β : Type} (f : α → β) (left right : Checked α) (same : alike left right) :
    alike (left.map f) (right.map f) := by
  have moved (checked : Checked α) : checked.map f = checked.bind fun value => .ok (f value) := by cases checked <;> rfl
  rw [moved, moved]
  exact respected.onward left right _ same

theorem all_alike {α : Type} (before after : List (Checked α)) (left right : Checked α) (same : alike left right) :
    alike (Checked.all (before ++ left :: after)) (Checked.all (before ++ right :: after)) := by
  have step (first : Checked α) (rest : List (Checked α)) : Checked.all (first :: rest) =
      (first.both (Checked.all rest)).map fun pair => pair.1 :: pair.2 := by
    rw [Checked.all]
    cases first.both (Checked.all rest) <;> rfl
  induction before with
  | nil =>
    rw [List.nil_append, List.nil_append, step, step]
    exact mapped_alike respected _ _ _ (respected.both _ _ _ _ same (respected.same _))
  | cons first rest ih =>
    rw [List.cons_append, List.cons_append, step, step]
    exact mapped_alike respected _ _ _ (respected.both _ _ _ _ (respected.same _) ih)

theorem record_alike {α β : Type} (fields : Fields β) (build : β → α) (parts : α → β) (rule : α → Option Fault)
    (members others : Members) (same : alike (fields.read members) (fields.read others)) :
    alike ((Shape.record fields build parts rule).read (.object members))
      ((Shape.record fields build parts rule).read (.object others)) := by
  have read (members : Members) : (Shape.record fields build parts rule).read (.object members) =
      (fields.read members).bind fun parts => ruled rule (build parts) := by
    rw [Shape.read]
    cases fields.read members <;> rfl
  rw [read, read]
  exact respected.onward _ _ _ same

theorem part_alike {α : Type} (field : Field α) (shape : Shape α) (before after : Members) (key : String)
    (json other : Json) (same : alike (shape.read json) (shape.read other)) :
    alike (field.part shape (before ++ (key, json) :: after)) (field.part shape (before ++ (key, other) :: after)) := by
  rw [Field.part, Field.part]
  rcases find_replaced before after key json other field with found | ⟨left, right⟩
  · rw [found]
    exact respected.same _
  · rw [left, right]
    exact respected.under _ _ _ same

variable (change : ∀ β : Type, Fields β → Members → Members → Prop)
  (unread : ∀ {β : Type} (fields : Fields β) (members others : Members), fields.keys.Nodup →
    change β fields members others → alike (fields.read members) (fields.read others))

include unread

theorem shape_within_alike {α : Type} (shape : Shape α) (json other : Json)
    (within : Shape.Within change shape json other) (lawful : shape.Lawful) :
    alike (shape.read json) (shape.read other) := by
  revert lawful
  refine @Shape.Within.rec change
    (fun shape json other _ => shape.Lawful → alike (shape.read json) (shape.read other))
    (fun fields members others _ => fields.Lawful → fields.keys.Nodup →
      alike (fields.read members) (fields.read others))
    ?here ?field ?optional ?item ?entry ?operations ?first ?later α shape json other within
  case here =>
    intro α β fields build parts rule members others changed lawful
    exact record_alike respected fields build parts rule members others (unread fields members others lawful.2.1 changed)
  case field =>
    intro α β fields build parts rule members others _ inner lawful
    exact record_alike respected fields build parts rule members others (inner lawful.1 lawful.2.1)
  case optional =>
    intro α inner json other within same lawful
    obtain ⟨filled, also⟩ := within_filled change inner json other within
    rw [optional_filled inner json filled, optional_filled inner other also]
    exact mapped_alike respected _ _ _ (same lawful.1)
  case item =>
    intro α item before after json other _ same lawful
    rw [Shape.read, Shape.read, List.mapIdx_append, List.mapIdx_append, List.mapIdx_cons, List.mapIdx_cons]
    exact all_alike respected _ _ _ _ (respected.under _ _ _ (same lawful))
  case entry =>
    intro α item before after key json other _ same lawful
    rw [Shape.read, Shape.read, List.map_append, List.map_append, List.map_cons, List.map_cons]
    exact mapped_alike respected _ _ _ (all_alike respected _ _ _ _ (mapped_alike respected _ _ _
      (respected.under _ _ _ (same lawful))))
  case operations =>
    intro items others _ same _
    exact mapped_alike respected _ _ _ (same Patch.shape_lawful)
  case first =>
    intro α β field shape rest before after key json other spelled _ same lawful distinct
    obtain ⟨_, apart⟩ := keys_apart field shape rest distinct
    have unmoved := fields_read_same rest (before ++ (key, json) :: after) (before ++ (key, other) :: after)
      fun asked member => last_of_replaced_elsewhere before after key json other asked
        fun here => apart key spelled (here ▸ member)
    rw [fields_read_parts, fields_read_parts, unmoved]
    exact respected.both _ _ _ _ (part_alike respected field shape before after key json other (same lawful.1))
      (respected.same _)
  case later =>
    intro α β field shape rest members others within same lawful distinct
    obtain ⟨restDistinct, apart⟩ := keys_apart field shape rest distinct
    obtain ⟨place, member, elsewhere⟩ := fields_within_elsewhere change rest members others within
    have unmoved := part_same field shape members others fun asked spelled =>
      elsewhere asked fun here => apart asked spelled (here ▸ member)
    rw [fields_read_parts, fields_read_parts, unmoved]
    exact respected.both _ _ _ _ (respected.same _) (same lawful.2.1 restDistinct)

end
end Gatehouse
