/- Floating point numbers of sixty-four bits, by exact arithmetic on natural numbers. The magnitudes of the
   finite numbers are numbered in increasing order: a rank is the place of a magnitude in that order. Each
   magnitude is a whole number of units of 2 ^ -1074, and `ofDecimal` takes the nearest one, a tie going to the
   even rank. -/
namespace Gatehouse

namespace Binary64

-- The leading bit of a significand, which is not stored but for the smallest numbers.
def leadingBit : Nat := Nat.pow 2 52

def unitsInOne : Nat := Nat.pow 2 1074

def ranks : Nat := 2047 * leadingBit

end Binary64

inductive Binary64 where
  | nan
  | infinite (negative : Bool)
  | finite (negative : Bool) (rank : Fin Binary64.ranks)
deriving DecidableEq

-- The number `digits * 10 ^ power`.
structure Decimal where
  digits : Nat
  power : Int
deriving DecidableEq

namespace Binary64

def spacing (rank : Nat) : Nat := rank / leadingBit - 1

def significand (rank : Nat) : Nat :=
  if rank < leadingBit then rank else leadingBit + rank % leadingBit

def units (rank : Nat) : Nat := significand rank * Nat.pow 2 (spacing rank)

-- The last rank of at most this many units.
def rankBelow (count : Nat) : Nat :=
  if count < 2 * leadingBit then count
  else
    let shift := count.log2 - 52
    (shift + 1) * leadingBit + (count / Nat.pow 2 shift - leadingBit)

-- The rank nearest to `num / den` units.
def nearest (num den : Nat) : Nat :=
  let below := rankBelow (num / den)
  let excess := 2 * (num - units below * den)
  let step := den * Nat.pow 2 (spacing below)
  if excess < step then below
  else if excess = step then below + below % 2
  else below + 1

def ofRank (negative : Bool) (rank : Nat) : Binary64 :=
  if small : rank < ranks then .finite negative ⟨rank, small⟩ else .infinite negative

def zero (negative : Bool) : Binary64 := ofRank negative 0

/-- The two guards only spare the work for numbers far out of range. -/
def ofDecimal (negative : Bool) (decimal : Decimal) : Binary64 :=
  if decimal.digits = 0 then zero negative
  else if 400 < decimal.power then .infinite negative
  else if 0 ≤ decimal.power then
    ofRank negative (nearest (decimal.digits * Nat.pow 10 decimal.power.toNat * unitsInOne) 1)
  else
    let places := (-decimal.power).toNat
    if decimal.digits.log2 + 1077 ≤ 3 * places then zero negative
    else ofRank negative (nearest (decimal.digits * unitsInOne) (Nat.pow 10 places))

def ofNat (negative : Bool) (value : Nat) : Binary64 :=
  ofRank negative (nearest (value * unitsInOne) 1)

def isFinite : Binary64 → Bool
  | .finite _ _ => true
  | _ => false

-- The whole number that a finite number without a fraction is.
def toInt? : Binary64 → Option Int
  | .finite negative rank =>
    if units rank % unitsInOne = 0 then
      let whole : Int := units rank / unitsInOne
      some (if negative then -whole else whole)
    else none
  | _ => none

def isPositive : Binary64 → Bool
  | .nan => false
  | .infinite negative => !negative
  | .finite negative rank => !negative && rank.val != 0

-- The exact decimal value of a rank has 1074 places.
def exact (rank : Nat) : Decimal := ⟨units rank * Nat.pow 5 1074, -1074⟩

end Binary64
end Gatehouse
