import Gatehouse.Decimal

/- Values of JSON. An object keeps its members in the order of its text, and a key may occur more than once:
   `collapsed` keeps the first place and the last value of each key. -/
namespace Gatehouse

inductive Json where
  | null
  | bool (value : Bool)
  | int (value : Int)
  | float (value : Binary64)
  | string (text : String)
  | array (items : List Json)
  | object (members : List (String × Json))
deriving BEq, Inhabited

abbrev Members := List (String × Json)

-- Puts an entry in place of the entry with its key, or at the end.
def put {α : Type} (entries : List (String × α)) (key : String) (value : α) : List (String × α) :=
  match entries with
  | [] => [(key, value)]
  | (other, old) :: rest => if other == key then (key, value) :: rest else (other, old) :: put rest key value

def merged {α : Type} (entries : List (String × α)) : List (String × α) :=
  entries.foldl (fun kept (key, value) => put kept key value) []

-- The value of the last entry with this key.
def lastOf {α : Type} (entries : List (String × α)) (key : String) : Option α :=
  match entries with
  | [] => none
  | (other, value) :: rest =>
    match lastOf rest key with
    | some later => some later
    | none => if other == key then some value else none

namespace Json

mutual

def collapsed : Json → Json
  | .array items => .array (collapsedItems items)
  | .object members => .object (merged (collapsedMembers members))
  | other => other

def collapsedItems : List Json → List Json
  | [] => []
  | item :: rest => item.collapsed :: collapsedItems rest

def collapsedMembers : Members → Members
  | [] => []
  | (key, value) :: rest => (key, value.collapsed) :: collapsedMembers rest

end

def get? : Json → String → Option Json
  | .object members, key => lastOf members key
  | _, _ => none

def isNull : Json → Bool
  | .null => true
  | _ => false

end Json
end Gatehouse
