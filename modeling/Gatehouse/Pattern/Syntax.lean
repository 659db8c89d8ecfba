import Gatehouse.Text.Blank
import Gatehouse.Text.Digit
import Gatehouse.Text.Lower
import Gatehouse.Text.Word

/- Patterns for values. The regular part is the empty pattern, characters and sets of them, sequence, choice,
   groups and repetition; anchors, lookaround, atomic groups, references to groups and conditions on them go
   beyond it. -/
namespace Gatehouse

-- Whether letters of different case are told apart.
inductive Folding where
  | exact
  | asciiLetters
  | letters
deriving DecidableEq

inductive CategoryKind where
  | digit
  | space
  | word
deriving DecidableEq

structure Category where
  kind : CategoryKind
  negated : Bool
  asciiOnly : Bool
deriving DecidableEq

inductive CharItem where
  | one (code : Nat)
  | range (first last : Nat)
  | category (category : Category)
deriving DecidableEq

structure CharSet where
  negated : Bool
  folding : Folding
  items : List CharItem
deriving DecidableEq

inductive Anchor where
  | textStart
  | lineStart
  | textEnd
  | lastLineEnd
  | lineEnd
  | edge (asciiOnly : Bool)
  | noEdge (asciiOnly : Bool)
deriving DecidableEq

inductive Greed where
  | greedy
  | lazy
  | possessive
deriving DecidableEq

inductive Pattern where
  | empty
  | char (code : Nat) (folding : Folding)
  | set (chars : CharSet)
  | any (newlines : Bool)
  | anchor (place : Anchor)
  | seq (first second : Pattern)
  | alt (first second : Pattern)
  | group (index : Nat) (body : Pattern)
  | rep (greed : Greed) (least : Nat) (most : Option Nat) (body : Pattern)
  | atomic (body : Pattern)
  | look (ahead negated : Bool) (body : Pattern)
  -- The text of a group again; the bounds are those of the group's width.
  | again (index : Nat) (folding : Folding) (low high : Nat)
  | ifGroup (index : Nat) (yes no : Pattern)
deriving DecidableEq

namespace Folding

def fold : Folding → Char → Char
  | .exact, c => c
  | .asciiLetters, c => c.toLower
  | .letters, c => Text.lower c

def same (folding : Folding) (code : Nat) (c : Char) : Bool :=
  match folding with
  | .exact => code == c.toNat
  | .asciiLetters => ((Char.ofNat code).toLower == c.toLower && Nat.isValidChar code) || code == c.toNat
  | .letters => (Nat.isValidChar code && Text.sameLetter (Char.ofNat code) c) || code == c.toNat

-- The codes of all characters that are the same letter.
def spellings (folding : Folding) (c : Char) : List Nat :=
  match folding with
  | .exact => [c.toNat]
  | .asciiLetters => [c.toNat, c.toLower.toNat, c.toUpper.toNat]
  | .letters => c.toNat :: Text.spellings c

end Folding

def Category.hasKind (category : Category) (c : Char) : Bool :=
  match category.kind, category.asciiOnly with
  | .digit, true => '0' ≤ c && c ≤ '9'
  | .digit, false => Text.isDigit c
  | .space, true => c == ' ' || (9 ≤ c.toNat && c.toNat ≤ 13)
  | .space, false => Text.isBlank c
  | .word, true => c.isAlphanum || c == '_'
  | .word, false => Text.isWord c

def Category.has (category : Category) (c : Char) : Bool := category.hasKind c != category.negated

def CharItem.has (folding : Folding) (c : Char) : CharItem → Bool
  | .one code => folding.same code c
  | .range first last => (folding.spellings c).any fun code => first ≤ code && code ≤ last
  | .category kind => kind.has c

def CharSet.has (set : CharSet) (c : Char) : Bool := (set.items.any (·.has set.folding c)) != set.negated

namespace Pattern

def sequence : List Pattern → Pattern
  | [] => .empty
  | [only] => only
  | first :: rest => .seq first (sequence rest)

def choice : List Pattern → Pattern
  | [] => .empty
  | [only] => only
  | first :: rest => .alt first (choice rest)

def widthLimit : Nat := Nat.pow 2 64

-- The least and the greatest number of characters that a match has, both at most `widthLimit`.
def width : Pattern → Nat × Nat
  | .empty => (0, 0)
  | .char _ _ | .set _ | .any _ => (1, 1)
  | .anchor _ => (0, 0)
  | .seq first second =>
    let (low, high) := width first
    let (low', high') := width second
    (min (low + low') widthLimit, min (high + high') widthLimit)
  | .alt first second =>
    let (low, high) := width first
    let (low', high') := width second
    (min low low', max high high')
  | .group _ body => width body
  | .rep _ least most body =>
    let (low, high) := width body
    let top := match most with
      | some most => high * most
      | none => if high = 0 then 0 else widthLimit
    (min (low * least) widthLimit, min top widthLimit)
  | .atomic body => width body
  | .look _ _ _ => (0, 0)
  | .again _ _ low high => (low, high)
  | .ifGroup _ yes no =>
    let (low, high) := width yes
    let (low', high') := width no
    (min low low', max high high')

end Pattern
end Gatehouse
