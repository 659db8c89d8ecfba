import Gatehouse.PatternText.Escape

/- Quantifiers: how often an item is repeated, and how eagerly. -/
namespace Gatehouse.PatternText

open Pattern

def repeatLimit : Nat := Nat.pow 2 32 - 1

-- How many digits are read as a number; zeros in front count as well.
def digitLimit : Nat := 4300

def boundOf (digits : List Char) : Except Invalid Nat :=
  if digitLimit < digits.length then .error (.tooManyDigits digits.length)
  else if repeatLimit ≤ radixValue 10 digits then .error .repeatTooLarge
  else .ok (radixValue 10 digits)

-- The bounds in braces; nothing when the braces hold something else.
def braces : Reading (Option (Nat × Option Nat)) := do
  let start ← get
  let here := start.place
  if start.token == some (.plain '\x7d') then return none
  else
    let low ← takeWhile isNumeral (← remaining)
    let high ← do
      if ← accept ',' then takeWhile isNumeral (← remaining) else pure low
    if !(← accept '\x7d') then
      set start
      return none
    else
      let least ← boundOf low
      if high.isEmpty then return some (least, none)
      else
        let most ← boundOf high
        if most < least then flawAt .emptyRepeat here else return some (least, some most)

def bounds? (c : Char) : Reading (Option (Nat × Option Nat)) := do
  match c with
  | '?' => return some (0, some 1)
  | '*' => return some (0, none)
  | '+' => return some (1, none)
  | _ => braces

-- Repeats the last item, which stands at the head of the list; `mark` is the place of the quantifier.
def quantified (mark least : Nat) (most : Option Nat) : List Item → Reading (List Item)
  | [] => flawAt .nothingToRepeat mark
  | item :: items => do
    match item.kind with
    | .anchor => flawAt .nothingToRepeat mark
    | .rep => flawAt .repeatTwice mark
    | .other =>
      let greed ← do
        if ← accept '?' then pure Greed.lazy
        else if ← accept '+' then pure Greed.possessive
        else pure Greed.greedy
      return ⟨.rep greed least most item.pattern, .rep⟩ :: items

end Gatehouse.PatternText
