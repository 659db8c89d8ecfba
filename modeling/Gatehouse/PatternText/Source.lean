import Gatehouse.Pattern.Syntax
import Gatehouse.PatternText.Flaw
import Gatehouse.Text.Hex

/- The text of a pattern while it is read. It is a row of tokens, a character or a backslash with the character after
   it; one token is looked at ahead. -/
namespace Gatehouse.PatternText

open Pattern

structure Flags where
  ignoreCase : Bool
  multiline : Bool
  dotAll : Bool
  verbose : Bool
  asciiOnly : Bool
  unicode : Bool
  template : Bool
  locale : Bool
deriving DecidableEq

def Flags.none : Flags := ⟨false, false, false, false, false, false, false, false⟩

def Flags.folding (flags : Flags) : Folding :=
  if !flags.ignoreCase then .exact else if flags.asciiOnly then .asciiLetters else .letters

inductive Token where
  | plain (c : Char)
  | escaped (c : Char)
deriving DecidableEq

def Token.text : Token → List Char
  | .plain c => [c]
  | .escaped c => ['\\', c]

def Token.length (token : Token) : Nat := token.text.length

-- What a pattern is written in: characters, of which some are known by name, or bytes, each told as a character.
inductive Dialect where
  | characters (named : String → Option Char)
  | bytes

-- Characters, none of them known by name.
def Dialect.plain : Dialect := .characters fun _ => none

structure Source where
  token : Option Token
  -- The number of characters up to the end of the token.
  stop : Nat
  rest : List Char
  flags : Flags
  -- The widths of the groups opened so far, none for those still open.
  groups : List (Option (Nat × Nat))
  names : List (String × Nat)
  -- Within a lookbehind, the number of groups opened before it.
  behind : Option Nat
  -- Conditions on groups by number, with their places.
  forward : List (Nat × Nat)
  dialect : Dialect

def Source.begin (dialect : Dialect) (text : List Char) : Source :=
  ⟨none, 0, text, .none, [none], [], none, [], dialect⟩

abbrev Reading := StateT Source (Except Invalid)

def Source.place (source : Source) : Nat := source.stop - (source.token.map Token.length).getD 0

def Source.shift (source : Source) : Except Invalid Source :=
  match source.rest with
  | [] => .ok { source with token := none }
  | ['\\'] => .error (.flawed .escapeAtEnd (some source.stop))
  | '\\' :: c :: rest => .ok { source with token := some (.escaped c), stop := source.stop + 2, rest := rest }
  | c :: rest => .ok { source with token := some (.plain c), stop := source.stop + 1, rest := rest }

def place : Reading Nat := do return (← get).place

def peek : Reading (Option Token) := do return (← get).token

def take : Reading (Option Token) := do
  let source ← get
  let next ← source.shift
  set next
  return source.token

def flaw {α : Type} (flaw : Flaw) (back : Nat) : Reading α := do
  let here ← place
  throw (.flawed flaw (some (here - back)))

-- A flaw at a place already passed.
def flawAt {α : Type} (flaw : Flaw) (place : Nat) : Reading α := throw (.flawed flaw (some place))

def accept (c : Char) : Reading Bool := do
  if (← peek) == some (.plain c) then
    let _ ← take
    return true
  else return false

def isOctal (c : Char) : Bool := '0' ≤ c && c ≤ '7'

def isNumeral (c : Char) : Bool := '0' ≤ c && c ≤ '9'

def isHex (c : Char) : Bool := (Text.hexValue? c).isSome

def takeWhile (test : Char → Bool) : Nat → Reading (List Char)
  | 0 => return []
  | count + 1 => do
    match ← peek with
    | some (.plain c) =>
      if test c then
        let _ ← take
        let rest ← takeWhile test count
        return c :: rest
      else return []
    | _ => return []

def remaining : Reading Nat := do
  let source ← get
  return source.rest.length + 2

-- A name up to its terminator, which is passed as well.
def takeName (what : String) (terminator : Char) : Nat → List Char → Reading (List Char)
  | 0, _ => flaw (.openName terminator) 0
  | fuel + 1, name => do
    match ← take with
    | none => if name.isEmpty then flaw (.missingName what) 0 else flaw (.openName terminator) name.length
    | some token =>
      if token == .plain terminator then
        if name.isEmpty then flaw (.missingName what) 1 else return name
      else takeName what terminator fuel (name ++ token.text)

def name (what : String) (terminator : Char) : Reading (List Char) := do
  takeName what terminator (← remaining) []

def radixValue (radix : Nat) (digits : List Char) : Nat :=
  digits.foldl (fun total c => total * radix + (Text.hexValue? c).getD 0) 0

/- Groups -/

def groupCount : Reading Nat := do return (← get).groups.length

def isClosed (index : Nat) : Reading Bool := do return (((← get).groups[index]?).getD none).isSome

def groupWidth (index : Nat) : Reading (Nat × Nat) := do
  return (((← get).groups[index]?).getD none).getD (0, 0)

def checkBehind (index : Nat) : Reading Unit := do
  match (← get).behind with
  | none => return ()
  | some before =>
    if !(← isClosed index) then flaw .openGroup 0
    else if before ≤ index then flaw .lookbehindGroup 0
    else return ()

def backReference (flags : Flags) (index : Nat) : Reading Pattern := do
  let (low, high) ← groupWidth index
  return .again index flags.folding low high

def openGroup (name : Option (List Char)) : Reading Nat := do
  let source ← get
  let index := source.groups.length
  match name with
  | none =>
    set { source with groups := source.groups ++ [none] }
    return index
  | some letters =>
    let name := String.ofList letters
    match source.names.lookup name with
    | some earlier => flaw (.groupTwice name index earlier) (letters.length + 1)
    | none =>
      set { source with groups := source.groups ++ [none], names := (name, index) :: source.names }
      return index

def closeGroup (index : Nat) (body : Pattern) : Reading Unit :=
  modify fun source => { source with groups := source.groups.set index (some body.width) }

end Gatehouse.PatternText
