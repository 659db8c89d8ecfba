import Gatehouse.Binary64

/- Decimal text of floating point numbers: the fewest digits that read back as the number, and of those the
   nearest. A layout says where the positional form ends. -/
namespace Gatehouse.Decimal

def digitChar (value : Nat) : Char := Char.ofNat (48 + value)

def numeral (value : Nat) : List Char :=
  if value < 10 then [digitChar value] else numeral (value / 10) ++ [digitChar (value % 10)]
termination_by value
decreasing_by omega

-- The number written by a run of digits.
def valueOf (digits : List Char) : Nat :=
  digits.foldl (fun total c => total * 10 + (c.toNat - 48)) 0

def trimZeros (decimal : Decimal) : Decimal :=
  if decimal.digits = 0 then decimal
  else if decimal.digits % 10 = 0 then trimZeros ⟨decimal.digits / 10, decimal.power + 1⟩
  else decimal
termination_by decimal.digits
decreasing_by omega

-- The two neighbours of a decimal among those with this many digits, the nearer first.
def neighbours (decimal : Decimal) (length count : Nat) : List Decimal :=
  let cut := length - count
  let step := Nat.pow 10 cut
  let below := decimal.digits / step
  let power := decimal.power + cut
  let low : Decimal := ⟨below, power⟩
  let high : Decimal := ⟨below + 1, power⟩
  if 2 * (decimal.digits % step) ≤ step then [low, high] else [high, low]

def shortest (rank : Fin Binary64.ranks) : Decimal :=
  let exact := Binary64.exact rank
  let length := (numeral exact.digits).length
  let readsBack (candidate : Decimal) : Bool := Binary64.ofDecimal false candidate == .finite false rank
  let found := (List.range 17).findSome? fun count =>
    if count + 1 ≤ length then (neighbours exact length (count + 1)).find? readsBack else none
  trimZeros (found.getD exact)

structure Layout where
  -- The smallest power of ten whose multiples are written positionally; the form ends below 10 ^ 16.
  lowest : Int

def zeros (count : Nat) : List Char := List.replicate count '0'

def exponent (power : Int) : List Char :=
  let digits := numeral power.natAbs
  (if power < 0 then '-' else '+') :: zeros (2 - digits.length) ++ digits

def Layout.magnitude (layout : Layout) (decimal : Decimal) : List Char :=
  let digits := numeral decimal.digits
  let leading := decimal.power + digits.length - 1
  if leading < layout.lowest ∨ 16 ≤ leading then
    let fraction := digits.drop 1
    digits.take 1 ++ (if fraction.isEmpty then [] else '.' :: fraction) ++ 'e' :: exponent leading
  else if 0 ≤ decimal.power then digits ++ zeros decimal.power.toNat ++ ['.', '0']
  else if 0 ≤ leading then
    let whole := (leading + 1).toNat
    digits.take whole ++ '.' :: digits.drop whole
  else '0' :: '.' :: zeros (-leading - 1).toNat ++ digits

def Layout.write (layout : Layout) (negative : Bool) (rank : Fin Binary64.ranks) : List Char :=
  let text := if rank.val = 0 then ['0', '.', '0'] else layout.magnitude (shortest rank)
  if negative then '-' :: text else text

end Gatehouse.Decimal
