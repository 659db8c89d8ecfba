import Gatehouse.Schema.Format

/- Shapes of data: a description from which both the reader and the writer of a type follow. A record is looked
   up field by field: the first of a field's keys that is present gives its value, the last one if it is
   repeated. A record is written with its fields in order under their own keys, without those that are null. -/
namespace Gatehouse

structure Field (α : Type) where
  key : String
  otherKeys : List String
  -- The value when no key is present; without one the field is required.
  absent : Option α

def Field.keys {α : Type} (field : Field α) : List String := field.key :: field.otherKeys

def Field.find? {α : Type} (field : Field α) (members : Members) : Option (String × Json) :=
  field.keys.findSome? fun key => (lastOf members key).map (key, ·)

mutual

inductive Shape : Type → Type 1 where
  | leaf {α : Type} (format : Format α) : Shape α
  | optional {α : Type} (inner : Shape α) : Shape (Option α)
  | list {α : Type} (item : Shape α) : Shape (List α)
  | map {α : Type} (item : Shape α) : Shape (List (String × α))
  | record {α β : Type} (fields : Fields β) (build : β → α) (parts : α → β) (rule : α → Option Fault) :
    Shape α

inductive Fields : Type → Type 1 where
  | nil : Fields Unit
  | cons {α β : Type} (field : Field α) (shape : Shape α) (rest : Fields β) : Fields (α × β)

end

def ruled {α : Type} (rule : α → Option Fault) (value : α) : Checked α :=
  match rule value with
  | none => .ok value
  | some fault => Checked.fault fault

mutual

def Shape.read : {α : Type} → Shape α → Json → Checked α
  | _, .leaf format, value => format.read value
  | _, .optional inner, value =>
    match value with
    | .null => .ok none
    | other => (inner.read other).map some
  | _, .list item, value =>
    match value with
    | .array items => Checked.all (items.mapIdx fun place value => (item.read value).under (.index place))
    | _ => Checked.fault .notList
  | _, .map item, value =>
    match value with
    | .object members =>
      (Checked.all (members.map fun (key, value) =>
        ((item.read value).under (.key key)).map (key, ·))).map merged
    | _ => Checked.fault .notMap
  | _, .record fields build _ rule, value =>
    match value with
    | .object members =>
      match fields.read members with
      | .ok parts => ruled rule (build parts)
      | .error issues => .error issues
    | _ => Checked.fault .notModel

def Fields.read : {β : Type} → Fields β → Members → Checked β
  | _, .nil, _ => .ok ()
  | _, .cons field shape rest, members =>
    let first := match field.find? members with
      | some (key, value) => (shape.read value).under (.key key)
      | none => match field.absent with
        | some value => .ok value
        | none => (Checked.fault .missing).under (.key field.key)
    Checked.both first (rest.read members)

end

mutual

def Shape.write : {α : Type} → Shape α → α → Json
  | _, .leaf format, value => format.write value
  | _, .optional inner, value =>
    match value with
    | none => .null
    | some value => inner.write value
  | _, .list item, values => .array (values.map item.write)
  | _, .map item, entries => .object (entries.map fun (key, value) => (key, item.write value))
  | _, .record fields _ parts _, value => .object ((fields.write (parts value)).filter fun (_, value) => !value.isNull)

def Fields.write : {β : Type} → Fields β → β → Members
  | _, .nil, _ => []
  | _, .cons field shape rest, (first, others) => (field.key, shape.write first) :: rest.write others

end

def Shape.plain {α β : Type} (fields : Fields β) (build : β → α) (parts : α → β) : Shape α :=
  .record fields build parts fun _ => none

/- Fields are spelled in camel case in text; the spelling with underscores is read as well. -/

def snake (key : String) : String :=
  String.ofList (key.toList.flatMap fun c => if c.isUpper then ['_', c.toLower] else [c])

def Field.required {α : Type} (key : String) : Field α :=
  ⟨key, if snake key == key then [] else [snake key], none⟩

def Field.default {α : Type} (key : String) (absent : α) : Field α :=
  ⟨key, if snake key == key then [] else [snake key], some absent⟩

def Fields.optional {α β : Type} (key : String) (shape : Shape α) (rest : Fields β) : Fields (Option α × β) :=
  .cons (.default key none) (.optional shape) rest

end Gatehouse
