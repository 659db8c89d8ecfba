import Gatehouse.Proofs.Json.Members
import Gatehouse.Proofs.Patch.Pointer

/- The application of a patch document to a value, as RFC 6902 has it: what is added needs an existing place to add
   to, what is replaced or removed has to be there, and the whole document is applied or nothing of it. -/
namespace Gatehouse.Json

inductive Edit where
  | add (value : Json)
  | replace (value : Json)
  | remove

-- The place of an item by its number, which is written without leading zeros.
def place? (key : String) : Option Nat :=
  match key.toList with
  | [] => none
  | ['0'] => some 0
  | c :: rest => if c != '0' && (c :: rest).all isDigit then some (Decimal.valueOf (c :: rest)) else none

def Edit.member (edit : Edit) (members : Members) (key : String) : Option Members :=
  match edit with
  | .add value => some (put members key value)
  | .replace value => if (lastOf members key).isSome then some (put members key value) else none
  | .remove => if (lastOf members key).isSome then some (members.filter fun entry => entry.1 != key) else none

-- A hyphen names the place behind the last item.
def Edit.item (edit : Edit) (items : List Json) (key : String) : Option (List Json) :=
  match edit with
  | .add value =>
    if key == "-" then some (items ++ [value])
    else (place? key).bind fun place => if place ≤ items.length then some (items.insertIdx place value) else none
  | .replace value =>
    (place? key).bind fun place => if place < items.length then some (items.set place value) else none
  | .remove => (place? key).bind fun place => if place < items.length then some (items.eraseIdx place) else none

def Edit.along (edit : Edit) : List String → Json → Option Json
  | [], _ =>
    match edit with
    | .add value => some value
    | .replace value => some value
    | .remove => none
  | [key], .object members => (edit.member members key).map .object
  | [key], .array items => (edit.item items key).map .array
  | key :: next :: rest, .object members =>
    (lastOf members key).bind fun child =>
      (edit.along (next :: rest) child).map fun changed => .object (put members key changed)
  | key :: next :: rest, .array items =>
    (place? key).bind fun place => items[place]?.bind fun child =>
      (edit.along (next :: rest) child).map fun changed => .array (items.set place changed)
  | _, _ => none

-- An operation that a document describes, with the path it names. Only `add` and `replace` have a value.
def edit? (operation : Json) : Option (Edit × List String) :=
  match operation.get? "op", operation.get? "path" with
  | some (.string action), some (.string pointer) =>
    (Pointer.parse pointer).bind fun path =>
      match action with
      | "add" => (operation.get? "value").map fun value => (.add value, path)
      | "replace" => (operation.get? "value").map fun value => (.replace value, path)
      | "remove" => some (.remove, path)
      | _ => none
  | _, _ => none

def applyOperation (target operation : Json) : Option Json :=
  (edit? operation).bind fun (edit, path) => edit.along path target

def applyDocument (document target : Json) : Option Json :=
  match document with
  | .array operations => operations.foldlM applyOperation target
  | _ => none

theorem apply_single (operation target : Json) (edit : Edit) (path : List String)
    (read : edit? operation = some (edit, path)) :
    applyDocument (.array [operation]) target = edit.along path target := by
  simp [applyDocument, applyOperation, read]

theorem along_absent (edit : Edit) (members : Members) (key next : String) (rest : List String)
    (absent : lastOf members key = none) : edit.along (key :: next :: rest) (.object members) = none := by
  rw [Edit.along, absent]
  rfl

theorem along_member (edit : Edit) (members : Members) (key next : String) (rest : List String) (child : Json)
    (present : lastOf members key = some child) : edit.along (key :: next :: rest) (.object members) =
      (edit.along (next :: rest) child).map fun changed => .object (put members key changed) := by
  rw [Edit.along, present]
  rfl

theorem add_member (value : Json) (members : Members) (key : String) :
    (Edit.add value).along [key] (.object members) = some (.object (put members key value)) := rfl

theorem replace_absent (value : Json) (members : Members) (key : String) (absent : lastOf members key = none) :
    (Edit.replace value).along [key] (.object members) = none := by
  simp [Edit.along, Edit.member, absent]

end Gatehouse.Json
