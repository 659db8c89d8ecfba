import Gatehouse.PatternText.Source

/- Escapes, outside of sets and within them, and the sets themselves. -/
namespace Gatehouse.PatternText

open Pattern

def controlEscape? : Char → Option Nat
  | 'a' => some 7
  | 'b' => some 8
  | 'f' => some 12
  | 'n' => some 10
  | 'r' => some 13
  | 't' => some 9
  | 'v' => some 11
  | '\\' => some 92
  | _ => none

def category? (flags : Flags) : Char → Option Category
  | 'd' => some ⟨.digit, false, flags.asciiOnly⟩
  | 'D' => some ⟨.digit, true, flags.asciiOnly⟩
  | 's' => some ⟨.space, false, flags.asciiOnly⟩
  | 'S' => some ⟨.space, true, flags.asciiOnly⟩
  | 'w' => some ⟨.word, false, flags.asciiOnly⟩
  | 'W' => some ⟨.word, true, flags.asciiOnly⟩
  | _ => none

def anchor? (flags : Flags) : Char → Option Anchor
  | 'A' => some .textStart
  | 'Z' => some .textEnd
  | 'b' => some (.edge flags.asciiOnly)
  | 'B' => some (.noEdge flags.asciiOnly)
  | _ => none

def badEscape {α : Type} (text : List Char) : Reading α := flaw (.badEscape (String.ofList text)) text.length

-- A code of exactly `count` hexadecimal digits.
def hexEscape (letter : Char) (count : Nat) : Reading Nat := do
  let digits ← takeWhile isHex count
  let text := '\\' :: letter :: digits
  if digits.length != count then flaw (.incompleteEscape (String.ofList text)) text.length
  else
    let code := radixValue 16 digits
    if 0x10ffff < code then badEscape text else return code

-- A character by its name.
def namedEscape (named : String → Option Char) : Reading Nat := do
  if !(← accept '\x7b') then flaw .missingBrace 0
  else
    let letters ← name "character name" '\x7d'
    match named (String.ofList letters) with
    | some c => return c.toNat
    | none => flaw (.unknownCharacter (String.ofList letters)) (letters.length + 4)

def isAsciiLetter (c : Char) : Bool := c.isAlpha

def octalCode (text digits : List Char) : Reading Nat := do
  let code := radixValue 8 digits
  if 0o377 < code then flaw (.largeOctal (String.ofList text)) text.length else return code

-- The escapes that mean one character, inside a set as well as outside. Bytes have fewer of them.
def letterEscape (c : Char) : Reading Nat := do
  match (← get).dialect, c with
  | _, 'x' => hexEscape c 2
  | .characters _, 'u' => hexEscape c 4
  | .characters _, 'U' => hexEscape c 8
  | .characters named, 'N' => namedEscape named
  | _, _ => if isAsciiLetter c || isNumeral c then badEscape ['\\', c] else return c.toNat

inductive SetItem where
  | code (code : Nat)
  | category (category : Category)

def setEscape (flags : Flags) (c : Char) : Reading SetItem := do
  match controlEscape? c, category? flags c with
  | some code, _ => return .code code
  | none, some category => return .category category
  | none, none =>
    if isOctal c then
      let more ← takeWhile isOctal 2
      return .code (← octalCode ('\\' :: c :: more) (c :: more))
    else return .code (← letterEscape c)

-- Digits after a backslash: a character by its octal code, or a group by its number.
def numberEscape (flags : Flags) (c : Char) : Reading Pattern := do
  if c == '0' then
    let more ← takeWhile isOctal 2
    return .char (radixValue 8 (c :: more)) flags.folding
  else
    let second ← takeWhile isNumeral 1
    let third ← if isOctal c && !second.isEmpty && second.all isOctal then takeWhile isOctal 1 else pure []
    let digits := c :: second ++ third
    if !third.isEmpty then return .char (← octalCode ('\\' :: digits) digits) flags.folding
    else
      let index := radixValue 10 digits
      if index < (← groupCount) then
        if !(← isClosed index) then flaw .openGroup (digits.length + 1)
        else
          checkBehind index
          backReference flags index
      else flaw (.noSuchGroup index) digits.length

inductive ItemKind where
  | anchor
  | rep
  | other
deriving DecidableEq

structure Item where
  pattern : Pattern
  kind : ItemKind

def single (flags : Flags) (category : Category) : Pattern := .set ⟨false, flags.folding, [.category category]⟩

def escape (flags : Flags) (c : Char) : Reading Item := do
  match anchor? flags c, category? flags c, controlEscape? c with
  | some place, _, _ => return ⟨.anchor place, .anchor⟩
  | none, some category, _ => return ⟨single flags category, .other⟩
  | none, none, some code => return ⟨.char code flags.folding, .other⟩
  | none, none, none =>
    if isNumeral c then return ⟨← numberEscape flags c, .other⟩
    else return ⟨.char (← letterEscape c) flags.folding, .other⟩

/- Sets -/

def SetItem.item : SetItem → CharItem
  | .code value => .one value
  | .category kind => .category kind

def setMember (flags : Flags) : Token → Reading SetItem
  | .plain c => return .code c.toNat
  | .escaped c => setEscape flags c

def setRange (first last : SetItem) (start stop : Token) : Reading CharItem :=
  let bad : Reading CharItem :=
    flaw (.badRange (String.ofList start.text) (String.ofList stop.text)) (start.length + 1 + stop.length)
  match first, last with
  | .code low, .code high => if high < low then bad else return .range low high
  | _, _ => bad

def setItems (flags : Flags) (opening : Nat) : Nat → List CharItem → Reading (List CharItem)
  | 0, _ => flawAt .openSet opening
  | fuel + 1, items => do
    match ← take with
    | none => flawAt .openSet opening
    | some token =>
      if token == .plain ']' && !items.isEmpty then return items
      else
        let first ← setMember flags token
        if ← accept '-' then
          match ← take with
          | none => flawAt .openSet opening
          | some (.plain ']') => return items ++ [first.item, .one '-'.toNat]
          | some stop =>
            let last ← setMember flags stop
            setItems flags opening fuel (items ++ [← setRange first last token stop])
        else setItems flags opening fuel (items ++ [first.item])

def charSet (flags : Flags) : Reading Pattern := do
  let opening := (← place) - 1
  let negated ← accept '^'
  let items ← setItems flags opening (← remaining) []
  return .set ⟨negated, flags.folding, items⟩

end Gatehouse.PatternText
