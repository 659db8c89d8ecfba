import Gatehouse.Text.Blank
import Gatehouse.Text.Digit

/- Whole numbers as people write them: blanks around, a sign, digits of any script, single underscores between
   digits. -/
namespace Gatehouse.Text

-- The value of digits with single underscores between them; `total` is what is read so far.
def digitsValue? (total : Nat) : List Char → Option Nat
  | [] => some total
  | '_' :: c :: rest =>
    match digitValue? c with
    | some digit => digitsValue? (total * 10 + digit) rest
    | none => none
  | c :: rest =>
    match digitValue? c with
    | some digit => digitsValue? (total * 10 + digit) rest
    | none => none

def natural? : List Char → Option Nat
  | [] => none
  | c :: rest => (digitValue? c).bind fun digit => digitsValue? digit rest

def integer? (text : List Char) : Option Int :=
  match trim text with
  | '-' :: rest => (natural? rest).map fun value => -(value : Int)
  | '+' :: rest => (natural? rest).map Int.ofNat
  | rest => (natural? rest).map Int.ofNat

end Gatehouse.Text
