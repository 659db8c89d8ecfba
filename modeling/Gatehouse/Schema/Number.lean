import Gatehouse.Schema.Format

/- Numbers with a fraction, read from JSON values and from texts. A text has blanks around, a sign, digits with at
   most one point among them and an exponent, or a word for infinity or for no number. Single underscores may stand
   between its characters. -/
namespace Gatehouse.Format

def signed (text : List Char) : Bool × List Char :=
  match text with
  | '-' :: rest => (true, rest)
  | '+' :: rest => (false, rest)
  | _ => (false, text)

def exponent? : List Char → Option Int
  | [] => some 0
  | c :: rest =>
    let (negative, digits) := signed rest
    if (c == 'e' || c == 'E') && !digits.isEmpty && digits.all isDecimalDigit then
      let size : Int := Decimal.valueOf digits
      some (if negative then -size else size)
    else none

-- Digits stand before the point or after it, or on both sides.
def decimal? (text : List Char) : Option Decimal :=
  let (whole, rest) := text.span isDecimalDigit
  let (places, rest) := match rest with
    | '.' :: rest => rest.span isDecimalDigit
    | _ => ([], rest)
  if whole.isEmpty && places.isEmpty then none
  else (exponent? rest).map fun power => ⟨Decimal.valueOf (whole ++ places), power - places.length⟩

def infinityNames : List String := ["inf", "infinity"]

def numberOf? (text : List Char) : Option Binary64 :=
  let (negative, rest) := signed text
  let word := String.ofList (rest.map Char.toLower)
  if infinityNames.contains word then some (.infinite negative)
  else if word == "nan" then some .nan
  else (decimal? rest).map (.ofDecimal negative)

def numberOfText (text : String) : Except Fault Binary64 :=
  match numberOf? (Text.trimBy Text.isWhite text.toList) with
  | some number => .ok number
  | none =>
    match numberOf? (dropUnderscores text.toList) with
    | some number => .ok number
    | none => .error .unreadableNumber

def readNumber : Json → Except Fault Binary64
  | .float number => .ok number
  | .int value =>
    let number := Binary64.ofNat (value < 0) value.natAbs
    if number.isFinite then .ok number else .error .notNumber
  | .bool value => .ok (.ofNat false value.toNat)
  | .string text => numberOfText text
  | _ => .error .notNumber

def number : Format Binary64 where
  read value := lifted (readNumber value)
  write := .float

end Gatehouse.Format
