import Gatehouse.Json.Plain
import Gatehouse.Text.Hex

/- Templates with slots that begin with a percent sign. A slot has flags, a width, a number of places and a letter
   that says how its value is written. The values are taken in order, and all of them are to be used. -/
namespace Gatehouse.Text.Percent

structure Slot where
  left : Bool
  zeros : Bool
  plus : Bool
  blank : Bool
  mark : Bool
  width : Nat
  places : Option Nat
  letter : Char

def flagCharacters : List Char := ['-', '0', '+', ' ', '#']

def numberAt (text : List Char) : Nat × List Char :=
  (Decimal.valueOf (text.takeWhile Char.isDigit), text.dropWhile Char.isDigit)

-- The slot after a percent sign, and what follows it.
def slot? (text : List Char) : Option (Slot × List Char) :=
  let flags := text.takeWhile flagCharacters.contains
  let (width, rest) := numberAt (text.drop flags.length)
  let (places, rest) := match rest with
    | '.' :: rest => ((some (numberAt rest).1), (numberAt rest).2)
    | _ => (none, rest)
  match rest with
  | [] => none
  | letter :: rest =>
    some (⟨flags.contains '-', flags.contains '0', flags.contains '+', flags.contains ' ', flags.contains '#',
      width, places, letter⟩, rest)

def padded (slot : Slot) (sign body : List Char) : List Char :=
  let missing := slot.width - (sign.length + body.length)
  if slot.left then sign ++ body ++ List.replicate missing ' '
  else if slot.zeros then sign ++ List.replicate missing '0' ++ body
  else List.replicate missing ' ' ++ sign ++ body

def signOf (slot : Slot) (negative : Bool) : List Char :=
  if negative then ['-'] else if slot.plus then ['+'] else if slot.blank then [' '] else []

def textual (slot : Slot) (text : List Char) : List Char :=
  let cut := match slot.places with
    | some places => text.take places
    | none => text
  padded { slot with zeros := false } [] cut

def whole (slot : Slot) (negative : Bool) (digits mark : List Char) : List Char :=
  let digits := List.replicate (slot.places.getD 0 - digits.length) '0' ++ digits
  padded slot (signOf slot negative ++ if slot.mark then mark else []) digits

-- The digits of a magnitude to a number of places, the nearest and on a tie the even ones.
def fixed (rank places : Nat) : List Char :=
  let scaled := Binary64.units rank * Nat.pow 10 places
  let one := Binary64.unitsInOne
  let below := scaled / one
  let rest := 2 * (scaled % one)
  let nearest := if rest < one then below else if rest = one then below + below % 2 else below + 1
  let digits := Decimal.numeral nearest
  let digits := List.replicate (places + 1 - digits.length) '0' ++ digits
  let count := digits.length - places
  if places = 0 then digits else digits.take count ++ '.' :: digits.drop count

def decimal (slot : Slot) (number : Binary64) : List Char :=
  match number with
  | .nan => padded { slot with zeros := false } (signOf slot false) ['n', 'a', 'n']
  | .infinite negative => padded { slot with zeros := false } (signOf slot negative) ['i', 'n', 'f']
  | .finite negative rank => padded slot (signOf slot negative) (fixed rank.val (slot.places.getD 6))

def realNumber? : Json → Option Binary64
  | .float number => some number
  | .int value => some (.ofNat (value < 0) value.natAbs)
  | .bool value => some (.ofNat false value.toNat)
  | _ => none

-- The whole number that is left of a number when its fraction is cut off.
def wholeNumber? : Json → Option Int
  | .int value => some value
  | .bool value => some value.toNat
  | .float (.finite negative rank) =>
    let size : Int := Binary64.units rank / Binary64.unitsInOne
    some (if negative then -size else size)
  | _ => none

def exactNumber? : Json → Option Int
  | .int value => some value
  | .bool value => some value.toNat
  | _ => none

def digitsIn (base value : Nat) : List Char :=
  if value = 0 then ['0'] else (Nat.toDigits base value)

inductive Flaw where
  | tooFew
  | tooMany
  | openSlot
  | wrongValue (letter : Char) (kind : String)
  | unknownLetter (letter : Char) (place : Nat)

def Flaw.message : Flaw → String
  | .tooFew => "not enough arguments for format string"
  | .tooMany => "not all arguments converted during string formatting"
  | .openSlot => "incomplete format"
  | .wrongValue letter kind =>
    if letter == 'd' || letter == 'i' || letter == 'u' then
      "%" ++ String.ofList [letter] ++ " format: a real number is required, not " ++ kind
    else if letter == 'f' || letter == 'F' then "must be real number, not " ++ kind
    else "%" ++ String.ofList [letter] ++ " format: an integer is required, not " ++ kind
  | .unknownLetter letter place =>
    "unsupported format character '" ++ String.ofList [letter] ++ "' (0x" ++
      String.ofList (digitsIn 16 letter.toNat) ++ ") at index " ++ toString place

def write (slot : Slot) (place : Nat) (value : Json) : Except Flaw (List Char) :=
  let wrong : Except Flaw (List Char) := .error (.wrongValue slot.letter value.kindName)
  match slot.letter with
  | 's' => .ok (textual slot value.plain.toList)
  | 'r' => .ok (textual slot value.quotedText.toList)
  | 'd' | 'i' | 'u' =>
    match wholeNumber? value with
    | some number => .ok (whole slot (number < 0) (digitsIn 10 number.natAbs) [])
    | none => wrong
  | 'x' =>
    match exactNumber? value with
    | some number => .ok (whole slot (number < 0) (digitsIn 16 number.natAbs) ['0', 'x'])
    | none => wrong
  | 'X' =>
    match exactNumber? value with
    | some number => .ok (whole slot (number < 0) ((digitsIn 16 number.natAbs).map Char.toUpper) ['0', 'X'])
    | none => wrong
  | 'o' =>
    match exactNumber? value with
    | some number => .ok (whole slot (number < 0) (digitsIn 8 number.natAbs) ['0', 'o'])
    | none => wrong
  | 'f' | 'F' =>
    match realNumber? value with
    | some number => .ok (decimal slot number)
    | none => wrong
  | letter => .error (.unknownLetter letter place)

def fillFrom (length : Nat) : Nat → List Char → List Json → Except Flaw (List Char)
  | 0, _, _ => .ok []
  | _, [], [] => .ok []
  | _, [], _ :: _ => .error .tooMany
  | fuel + 1, '%' :: rest, values =>
    match slot? rest with
    | none => .error .openSlot
    | some (slot, after) =>
      if slot.letter == '%' then (fillFrom length fuel after values).map ('%' :: ·)
      else
        match values with
        | [] => .error .tooFew
        | value :: others => do
          let written ← write slot (length - after.length - 1) value
          let filled ← fillFrom length fuel after others
          return written ++ filled
  | fuel + 1, c :: rest, values => (fillFrom length fuel rest values).map (c :: ·)

-- A template without values stands for itself.
def fill (template : String) (values : List Json) : Except Flaw String :=
  if values.isEmpty then .ok template
  else
    (fillFrom template.length (template.length + 1) template.toList values).map String.ofList

end Gatehouse.Text.Percent
