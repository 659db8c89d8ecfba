/- What is wrong with a value, and where. An issue stands at a path of keys and indices below the value that was
   read; a report lists the issues of one reading in the order of its fields. -/
namespace Gatehouse

inductive Step where
  | key (name : String)
  | index (place : Nat)
deriving DecidableEq

inductive Fault where
  | malformedText
  | missing
  | notModel
  | notMap
  | notList
  | notText
  | notUnicode
  | notInteger
  | unreadableInteger
  | hugeInteger
  | fractionalInteger
  | notFinite
  | notBoolean
  | unreadableBoolean
  | notListed
  | notNumber
  | unreadableNumber
  | notPath
  | belowMinimum
  | aboveMaximum
  | notAbove
  | rejected (reason : String)
deriving DecidableEq

def Fault.code : Fault → String
  | .malformedText => "json_invalid"
  | .missing => "missing"
  | .notModel => "model_type"
  | .notMap => "dict_type"
  | .notList => "list_type"
  | .notText => "string_type"
  | .notUnicode => "string_unicode"
  | .notInteger => "int_type"
  | .unreadableInteger => "int_parsing"
  | .hugeInteger => "int_parsing_size"
  | .fractionalInteger => "int_from_float"
  | .notFinite => "finite_number"
  | .notBoolean => "bool_type"
  | .unreadableBoolean => "bool_parsing"
  | .notListed => "enum"
  | .notNumber => "float_type"
  | .unreadableNumber => "float_parsing"
  | .notPath => "path_type"
  | .belowMinimum => "greater_than_equal"
  | .aboveMaximum => "less_than_equal"
  | .notAbove => "greater_than"
  | .rejected _ => "value_error"

-- The wording of a fault that a rule of the value found.
def Fault.message? : Fault → Option String
  | .rejected reason => some ("Value error, " ++ reason)
  | _ => none

structure Issue where
  place : List Step
  fault : Fault
deriving DecidableEq

def Issue.here (fault : Fault) : Issue := ⟨[], fault⟩

def Issue.under (step : Step) (issue : Issue) : Issue := ⟨step :: issue.place, issue.fault⟩

structure Report where
  title : String
  issues : List Issue
deriving DecidableEq

def Step.text : Step → String
  | .key name => name
  | .index place => toString place

def Issue.text (issue : Issue) : String :=
  String.intercalate "." (issue.place.map Step.text) ++ "\n  " ++ issue.fault.message?.getD issue.fault.code

def Report.text (report : Report) : String :=
  let count := report.issues.length
  toString count ++ (if count = 1 then " validation error for " else " validation errors for ") ++
    report.title ++ "\n" ++ String.intercalate "\n" (report.issues.map Issue.text)

/- Readings that keep every issue, those on the left first. -/

abbrev Checked (α : Type) := Except (List Issue) α

namespace Checked

def fault {α : Type} (fault : Fault) : Checked α := .error [.here fault]

def under {α : Type} (step : Step) : Checked α → Checked α
  | .ok value => .ok value
  | .error issues => .error (issues.map (·.under step))

def both {α β : Type} : Checked α → Checked β → Checked (α × β)
  | .ok left, .ok right => .ok (left, right)
  | .ok _, .error issues => .error issues
  | .error issues, .ok _ => .error issues
  | .error issues, .error more => .error (issues ++ more)

def all {α : Type} : List (Checked α) → Checked (List α)
  | [] => .ok []
  | first :: rest =>
    match both first (all rest) with
    | .ok (value, values) => .ok (value :: values)
    | .error issues => .error issues

end Checked
end Gatehouse
