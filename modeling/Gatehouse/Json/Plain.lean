import Gatehouse.Json.Writer
import Gatehouse.Text.Quoted

/- Values as messages show them: a text stands for itself at the top and is quoted within other values. -/
namespace Gatehouse.Json

def plainFloat : Binary64 → List Char
  | .nan => ['n', 'a', 'n']
  | .infinite false => ['i', 'n', 'f']
  | .infinite true => ['-', 'i', 'n', 'f']
  | .finite negative rank => ascii.layout.write negative rank

mutual

def quotedPlain : Json → List Char
  | .null => "None".toList
  | .bool true => "True".toList
  | .bool false => "False".toList
  | .int value => writeInt value
  | .float value => plainFloat value
  | .string text => Text.quotedList text.toList
  | .array items => '[' :: plainItems items ++ [']']
  | .object members => '\x7b' :: plainMembers members ++ ['\x7d']

def plainItems : List Json → List Char
  | [] => []
  | [item] => quotedPlain item
  | item :: next :: rest => quotedPlain item ++ ',' :: ' ' :: plainItems (next :: rest)

def plainMembers : Members → List Char
  | [] => []
  | [(key, value)] => Text.quotedList key.toList ++ ':' :: ' ' :: quotedPlain value
  | (key, value) :: next :: rest =>
    Text.quotedList key.toList ++ ':' :: ' ' :: quotedPlain value ++ ',' :: ' ' :: plainMembers (next :: rest)

end

def plain : Json → String
  | .string text => text
  | other => String.ofList (quotedPlain other)

-- The kind of a value, as messages name it.
def kindName : Json → String
  | .null => "NoneType"
  | .bool _ => "bool"
  | .int _ => "int"
  | .float _ => "float"
  | .string _ => "str"
  | .array _ => "list"
  | .object _ => "dict"

def quotedText (value : Json) : String := String.ofList (quotedPlain value)

end Gatehouse.Json
