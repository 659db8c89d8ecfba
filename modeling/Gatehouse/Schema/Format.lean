import Gatehouse.Json.Basic
import Gatehouse.Schema.Issue
import Gatehouse.Text.Blank

/- Formats of single values: how a value of a type is read from JSON and written to it. Numbers and truth values
   are also read from texts that name them. -/
namespace Gatehouse

structure Format (α : Type) where
  read : Json → Checked α
  write : α → Json

namespace Format

def text : Format String where
  read
    | .string text => .ok text
    | _ => Checked.fault .notText
  write := .string

/- Integers -/

def isDecimalDigit (c : Char) : Bool := '0' ≤ c && c ≤ '9'

-- The sign and digits of a plain integer: no plus sign, no leading zero.
def plainInteger? (text : List Char) : Option (Bool × List Char) :=
  let (negative, digits) := match text with
    | '-' :: rest => (true, rest)
    | _ => (false, text)
  if digits.isEmpty || !digits.all isDecimalDigit then none
  else if digits.head? == some '0' && digits.length != 1 then none
  else some (negative, digits)

def dropPlus? : List Char → Option (List Char)
  | '+' :: '-' :: _ => none
  | '+' :: rest => some rest
  | text => some text

-- Leading zeros go, with the underscores among them; the last zero stays when no other digit follows.
def dropZeros? (text : List Char) : Option (List Char) :=
  match text with
  | '0' :: _ =>
    match text.dropWhile fun c => c == '0' || c == '_' with
    | [] => text.getLast?.map ([·])
    | '.' :: rest => ((text.takeWhile fun c => c == '0' || c == '_').getLast?).map fun last => last :: '.' :: rest
    | c :: rest => if isDecimalDigit c then some (c :: rest) else none
  | '-' :: _ => some text
  | c :: _ => if isDecimalDigit c then some text else none
  | [] => none

def dropEmptyFraction (text : List Char) : List Char :=
  match text.dropWhile (· != '.') with
  | _ :: places => if places.all (· == '0') then text.takeWhile (· != '.') else text
  | [] => text

def hasPair (c : Char) : List Char → Bool
  | a :: b :: rest => (a == c && b == c) || hasPair c (b :: rest)
  | _ => false

def dropUnderscores (text : List Char) : List Char :=
  if text.head? == some '_' || text.getLast? == some '_' || hasPair '_' text then text
  else text.filter (· != '_')

def tidied? (text : List Char) : Option (List Char) :=
  ((dropPlus? text).bind dropZeros?).map fun rest => dropUnderscores (dropEmptyFraction rest)

def digitLimit : Nat := 4300

def signedValue : Bool × List Char → Except Fault Int
  | (negative, digits) =>
    if digitLimit < digits.length then .error .hugeInteger
    else
      let size : Int := Decimal.valueOf digits
      .ok (if negative then -size else size)

def integerOfText (text : String) : Except Fault Int :=
  let trimmed := Text.trimBy Text.isWhite text.toList
  match plainInteger? trimmed with
  | some parts => signedValue parts
  | none =>
    match (tidied? trimmed).bind plainInteger? with
    | some parts => signedValue parts
    | none => .error .unreadableInteger

def wordLimit : Nat := Nat.pow 2 63

def fitsWord (value : Int) : Bool := -(wordLimit : Int) ≤ value && value < wordLimit

def wholeInWord? (number : Binary64) : Option Int :=
  number.toInt?.filter fun value => value.natAbs < wordLimit

def integerOfNumber (number : Binary64) : Except Fault Int :=
  if !number.isFinite then .error .notFinite
  else match number.toInt? with
    | none => .error .fractionalInteger
    | some value => if value.natAbs < wordLimit then .ok value else .error .hugeInteger

def readInteger : Json → Except Fault Int
  | .int value => .ok value
  | .bool true => .ok 1
  | .bool false => .ok 0
  | .float number => integerOfNumber number
  | .string text => integerOfText text
  | _ => .error .notInteger

def lifted {α : Type} : Except Fault α → Checked α
  | .ok value => .ok value
  | .error fault => Checked.fault fault

def integer : Format Int where
  read value := lifted (readInteger value)
  write := .int

/- Truth values -/

def trueNames : List String := ["1", "on", "t", "true", "y", "yes"]

def falseNames : List String := ["0", "off", "f", "false", "n", "no"]

def readBoolean : Json → Except Fault Bool
  | .bool value => .ok value
  | .int value =>
    if value = 0 then .ok false
    else if value = 1 then .ok true
    else if fitsWord value then .error .unreadableBoolean
    else .error .notBoolean
  | .float number =>
    match wholeInWord? number with
    | some value =>
      if value = 0 then .ok false else if value = 1 then .ok true else .error .unreadableBoolean
    | none => .error .notBoolean
  | .string text =>
    let name := String.ofList (text.toList.map Char.toLower)
    if falseNames.contains name then .ok false
    else if trueNames.contains name then .ok true
    else .error .unreadableBoolean
  | _ => .error .notBoolean

def boolean : Format Bool where
  read value := lifted (readBoolean value)
  write := .bool

/- Other values -/

-- One of a list of named values.
def named {α : Type} (values : List α) (name : α → String) : Format α where
  read
    | .string text =>
      match values.find? fun value => name value == text with
      | some value => .ok value
      | none => Checked.fault .notListed
    | _ => Checked.fault .notListed
  write value := .string (name value)

def anything : Format Json where
  read value := .ok value.collapsed
  write := id

-- An object of any members.
def members : Format Members where
  read
    | .object members => .ok (merged (Json.collapsedMembers members))
    | _ => Checked.fault .notMap
  write := .object

end Format
end Gatehouse
