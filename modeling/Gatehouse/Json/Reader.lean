import Gatehouse.Json.Basic
import Gatehouse.Text.Hex

/- Reading JSON text. NaN, Infinity and -Infinity are numbers here; an integer has at most 4300 digits. A failure
   says what was expected and how much of the text was left, so that its place can be told. The room bounds how
   deep containers with content may be nested. -/
namespace Gatehouse.Json

inductive Reason where
  | expectedValue
  | expectedName
  | expectedColon
  | expectedComma
  | unterminated
  | controlCharacter
  | badEscape
  | badUnicodeEscape
  | loneSurrogate
  | extraData
  | byteOrderMark
  | tooManyDigits (count : Nat)
  | tooDeep
deriving DecidableEq

structure Failure where
  reason : Reason
  -- The number of characters from the place of the failure to the end of the text.
  left : Nat
deriving DecidableEq

def fail {α : Type} (reason : Reason) (rest : List Char) : Except Failure α := .error ⟨reason, rest.length⟩

def isSpace (c : Char) : Bool := c == ' ' || c == '\n' || c == '\t' || c == '\r'

def skipSpace (text : List Char) : List Char := text.dropWhile isSpace

def isDigit (c : Char) : Bool := '0' ≤ c && c ≤ '9'

/- Strings -/

def plainEscape? : Char → Option Char
  | '"' => some '"'
  | '\\' => some '\\'
  | '/' => some '/'
  | 'b' => some (Char.ofNat 8)
  | 'f' => some (Char.ofNat 12)
  | 'n' => some '\n'
  | 'r' => some '\r'
  | 't' => some '\t'
  | _ => none

-- Four hexadecimal digits; what is left begins after them.
def unit? : List Char → Option (Nat × List Char)
  | a :: b :: c :: d :: rest =>
    match Text.hexValue? a, Text.hexValue? b, Text.hexValue? c, Text.hexValue? d with
    | some a, some b, some c, some d => some (((a * 16 + b) * 16 + c) * 16 + d, rest)
    | _, _, _, _ => none
  | _ => none

def isHigh (unit : Nat) : Bool := 0xd800 ≤ unit && unit ≤ 0xdbff

def isLow (unit : Nat) : Bool := 0xdc00 ≤ unit && unit ≤ 0xdfff

def joinUnits (high low : Nat) : Char := Char.ofNat (0x10000 + (high - 0xd800) * 0x400 + (low - 0xdc00))

-- The character of a four digit escape, whose text begins after the letter u, which is at `mark`. The text cannot end
-- with the escape, since its string is still open.
def unicodeEscape (mark text : List Char) : Except Failure (Char × List Char) :=
  match unit? text with
  | none | some (_, []) => fail .badUnicodeEscape mark
  | some (unit, rest) =>
    if isHigh unit then
      match rest with
      | '\\' :: 'u' :: second =>
        match unit? second with
        | none | some (_, []) => fail .badUnicodeEscape ('u' :: second)
        | some (low, rest) => if isLow low then .ok (joinUnits unit low, rest) else fail .loneSurrogate mark
      | _ => fail .loneSurrogate mark
    else if isLow unit then fail .loneSurrogate mark
    else .ok (Char.ofNat unit, rest)

-- The characters of a string up to its closing quote, the last one first. `opening` is the text from the opening
-- quote on.
def stringFrom (opening : List Char) : Nat → List Char → List Char → Except Failure (String × List Char)
  | 0, _, _ => fail .unterminated opening
  | fuel + 1, read, text =>
    match text with
    | [] => fail .unterminated opening
    | '"' :: rest => .ok (String.ofList read.reverse, rest)
    | '\\' :: [] => fail .unterminated opening
    | '\\' :: 'u' :: rest => do
      let (c, rest) ← unicodeEscape ('u' :: rest) rest
      stringFrom opening fuel (c :: read) rest
    | '\\' :: c :: rest =>
      match plainEscape? c with
      | some plain => stringFrom opening fuel (plain :: read) rest
      | none => fail .badEscape text
    | c :: rest =>
      if c.toNat < 32 then fail .controlCharacter text else stringFrom opening fuel (c :: read) rest

def stringAt (opening text : List Char) : Except Failure (String × List Char) :=
  stringFrom opening (text.length + 1) [] text

/- Numbers -/

-- A fraction is a point and at least one digit; otherwise it is absent.
def fraction (text : List Char) : List Char × List Char :=
  match text with
  | '.' :: rest => if (rest.takeWhile isDigit).isEmpty then ([], text) else rest.span isDigit
  | _ => ([], text)

def power (text : List Char) : Option Int × List Char :=
  let signed (negative : Bool) (rest : List Char) : Option Int × List Char :=
    if (rest.takeWhile isDigit).isEmpty then (none, text)
    else
      let (digits, rest) := rest.span isDigit
      let size : Int := Decimal.valueOf digits
      (some (if negative then -size else size), rest)
  match text with
  | c :: '-' :: rest => if c == 'e' || c == 'E' then signed true rest else (none, text)
  | c :: '+' :: rest => if c == 'e' || c == 'E' then signed false rest else (none, text)
  | c :: rest => if c == 'e' || c == 'E' then signed false rest else (none, text)
  | [] => (none, text)

def digitLimit : Nat := 4300

def numberFrom (negative : Bool) (start text : List Char) : Except Failure (Json × List Char) :=
  let (whole, rest) := match text with
    | '0' :: rest => (['0'], rest)
    | _ => text.span isDigit
  if whole.isEmpty then fail .expectedValue start
  else
    let (places, rest) := fraction rest
    let (exponent, rest) := power rest
    if places.isEmpty && exponent.isNone then
      if digitLimit < whole.length then fail (.tooManyDigits whole.length) start
      else
        let size : Int := Decimal.valueOf whole
        .ok (.int (if negative then -size else size), rest)
    else
      let decimal : Decimal := ⟨Decimal.valueOf (whole ++ places), exponent.getD 0 - places.length⟩
      .ok (.float (.ofDecimal negative decimal), rest)

def number (text : List Char) : Except Failure (Json × List Char) :=
  match text with
  | '-' :: rest => numberFrom true text rest
  | _ => numberFrom false text text

/- Values -/

def word? (word text : List Char) : Option (List Char) :=
  if word.isPrefixOf text then some (text.drop word.length) else none

def words : List (List Char × Json) :=
  [("null".toList, .null), ("true".toList, .bool true), ("false".toList, .bool false),
    ("NaN".toList, .float .nan), ("Infinity".toList, .float (.infinite false)),
    ("-Infinity".toList, .float (.infinite true))]

def scalar (text : List Char) : Except Failure (Json × List Char) :=
  match words.findSome? fun (word, value) => (word? word text).map (value, ·) with
  | some read => .ok read
  | none => number text

mutual

def value : Nat → Nat → List Char → Except Failure (Json × List Char)
  | 0, _, text => fail .tooDeep text
  | fuel + 1, room, text =>
    match text with
    | '"' :: rest => do
      let (read, rest) ← stringAt text rest
      return (.string read, rest)
    | '[' :: rest =>
      match skipSpace rest with
      | ']' :: rest => .ok (.array [], rest)
      | rest =>
        match room with
        | 0 => fail .tooDeep text
        | room + 1 => do
          let (items, rest) ← itemsFrom fuel room rest
          return (.array items, rest)
    | '\x7b' :: rest =>
      match skipSpace rest with
      | '\x7d' :: rest => .ok (.object [], rest)
      | rest =>
        match room with
        | 0 => fail .tooDeep text
        | room + 1 => do
          let (members, rest) ← membersFrom fuel room rest
          return (.object members, rest)
    | _ => scalar text

def itemsFrom : Nat → Nat → List Char → Except Failure (List Json × List Char)
  | 0, _, text => fail .tooDeep text
  | fuel + 1, room, text => do
    let (item, rest) ← value fuel room text
    match skipSpace rest with
    | ']' :: rest => return ([item], rest)
    | ',' :: rest =>
      let (items, rest) ← itemsFrom fuel room (skipSpace rest)
      return (item :: items, rest)
    | rest => fail .expectedComma rest

def membersFrom : Nat → Nat → List Char → Except Failure (Members × List Char)
  | 0, _, text => fail .tooDeep text
  | fuel + 1, room, text =>
    match text with
    | '"' :: rest => do
      let (key, rest) ← stringAt text rest
      match skipSpace rest with
      | ':' :: rest =>
        let (item, rest) ← value fuel room (skipSpace rest)
        match skipSpace rest with
        | '\x7d' :: rest => return ([(key, item)], rest)
        | ',' :: rest =>
          let (members, rest) ← membersFrom fuel room (skipSpace rest)
          return ((key, item) :: members, rest)
        | rest => fail .expectedComma rest
      | rest => fail .expectedColon rest
    | _ => fail .expectedName text

end

-- Each step down takes at least every other character, so the fuel is never used up.
def fuelFor (text : List Char) : Nat := 2 * text.length + 2

def readList (room : Nat) (text : List Char) : Except Failure Json :=
  match text with
  | '\ufeff' :: _ => fail .byteOrderMark text
  | _ => do
    let (read, rest) ← value (fuelFor text) room (skipSpace text)
    match skipSpace rest with
    | [] => return read
    | rest => fail .extraData rest

def read (room : Nat) (text : String) : Except Failure Json := readList room text.toList

-- Reading without a bound on nesting: a text nests no deeper than it is long.
def readFreely (text : String) : Except Failure Json := read text.length text

/- Telling a failure -/

def Reason.message : Reason → String
  | .expectedValue => "Expecting value"
  | .expectedName => "Expecting property name enclosed in double quotes"
  | .expectedColon => "Expecting ':' delimiter"
  | .expectedComma => "Expecting ',' delimiter"
  | .unterminated => "Unterminated string starting at"
  | .controlCharacter => "Invalid control character at"
  | .badEscape => "Invalid \\escape"
  | .badUnicodeEscape => "Invalid \\uXXXX escape"
  | .loneSurrogate => "Invalid surrogate"
  | .extraData => "Extra data"
  | .byteOrderMark => "Unexpected UTF-8 BOM (decode using utf-8-sig)"
  | .tooManyDigits count => "Exceeds the limit (4300 digits) for integer string conversion: value has " ++
      toString count ++ " digits; use sys.set_int_max_str_digits() to increase the limit"
  | .tooDeep => "Too deeply nested"

def Reason.hasPlace : Reason → Bool
  | .tooManyDigits _ => false
  | _ => true

-- The place is told by line and column, both from one, and by the number of characters before it.
def Failure.message (failure : Failure) (text : String) : String :=
  let before := text.toList.take (text.length - failure.left)
  let line := before.count '\n' + 1
  let column := (before.reverse.takeWhile (· != '\n')).length + 1
  if failure.reason.hasPlace then
    failure.reason.message ++ ": line " ++ toString line ++ " column " ++ toString column ++
      " (char " ++ toString before.length ++ ")"
  else failure.reason.message

end Gatehouse.Json
