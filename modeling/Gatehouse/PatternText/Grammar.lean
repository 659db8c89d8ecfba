import Gatehouse.PatternText.Flags
import Gatehouse.PatternText.Repeat
import Gatehouse.Text.Identifier
import Gatehouse.Text.Numeral

/- The grammar of patterns: alternatives of rows of items, where an item may be a group of alternatives again. -/
namespace Gatehouse.PatternText

open Pattern

inductive Opening where
  | nothing
  | flags (flags : Flags)
  | item (item : Item)
  | group (flags : Flags) (index : Option Nat) (atomic : Bool)
  | look (ahead negated : Bool)
  | condition (index : Nat)

def skipComment (start : Nat) : Nat → Reading Unit
  | 0 => flawAt .openComment start
  | fuel + 1 => do
    match ← peek with
    | none => flawAt .openComment start
    | some _ => if (← take) == some (.plain ')') then return () else skipComment start fuel

def skipLine : Nat → Reading Unit
  | 0 => return ()
  | fuel + 1 => do
    match ← take with
    | none => return ()
    | some token => if token == .plain '\n' then return () else skipLine fuel

def groupName (terminator : Char) : Reading (List Char) := do
  let letters ← name "group name" terminator
  if Text.isIdentifier letters then return letters
  else flaw (.badGroupName (String.ofList letters)) (letters.length + 1)

def namedGroup (letters : List Char) : Reading Nat := do
  match (← get).names.lookup (String.ofList letters) with
  | some index => return index
  | none => flaw (.unknownGroup (String.ofList letters)) (letters.length + 1)

def groupLimit : Nat := 1073741823

-- The number of a group, as people write numbers.
def groupNumber? (letters : List Char) : Option Int :=
  if digitLimit < (letters.filter Text.isDigit).length then none else Text.integer? letters

def condition : Reading Nat := do
  let letters ← name "group name" ')'
  let index ← do
    if Text.isIdentifier letters then namedGroup letters
    else match groupNumber? letters with
      | none => flaw (.badGroupName (String.ofList letters)) (letters.length + 1)
      | some value =>
        if value < 0 then flaw (.badGroupName (String.ofList letters)) (letters.length + 1)
        else if value = 0 then flaw .badGroupNumber (letters.length + 1)
        else
          let index := value.toNat
          if groupLimit ≤ index then flaw (.noSuchGroup index) (letters.length + 1)
          else
            let mark := (← place) - letters.length - 1
            modify fun source =>
              if (source.forward.lookup index).isSome then source
              else { source with forward := source.forward ++ [(index, mark)] }
            pure index
  checkBehind index
  return index

def opened (flags : Flags) (name : Option (List Char)) : Reading Opening := do
  let index ← openGroup name
  return .group flags (some index) false

def extension (flags : Flags) : Reading Opening := do
  if ← accept '<' then
    let letters ← groupName '>'
    opened flags (some letters)
  else if ← accept '=' then
    let letters ← groupName ')'
    let index ← namedGroup letters
    if !(← isClosed index) then flaw .openGroup (letters.length + 1)
    else
      checkBehind index
      return .item ⟨← backReference flags index, .other⟩
  else
    match ← take with
    | none => flaw .unexpectedEnd 0
    | some token => flaw (.unknownExtension ("?P" ++ String.ofList token.text)) (token.length + 2)

def lookbehind : Reading Opening := do
  match ← take with
  | none => flaw .unexpectedEnd 0
  | some (.plain '=') => return .look false false
  | some (.plain '!') => return .look false true
  | some token => flaw (.unknownExtension ("?<" ++ String.ofList token.text)) (token.length + 2)

-- What an opening parenthesis begins; `start` is its place and `first` says whether flags of the whole pattern may
-- stand here.
def opening (flags : Flags) (start : Nat) (first : Bool) : Reading Opening := do
  if !(← accept '?') then opened flags none
  else
    match ← take with
    | none => flaw .unexpectedEnd 0
    | some token =>
      match token with
      | .plain 'P' => extension flags
      | .plain ':' => return .group flags none false
      | .plain '#' =>
        skipComment start (← remaining)
        return .nothing
      | .plain '=' => return .look true false
      | .plain '!' => return .look true true
      | .plain '<' => lookbehind
      | .plain '(' => return .condition (← condition)
      | .plain '>' => return .group flags none true
      | .plain c =>
        if (flag? c).isSome || c == '-' then
          match ← flagScope c with
          | .whole on =>
            let flags ← turnWhole on
            if first then return .flags flags else flawAt .lateFlags start
          | .group on off => return .group (flags.turn on off) none false
        else flaw (.unknownExtension ("?" ++ String.ofList token.text)) 2
      | .escaped _ => flaw (.unknownExtension ("?" ++ String.ofList token.text)) 3

def isVerboseSpace (c : Char) : Bool := c == ' ' || (9 ≤ c.toNat && c.toNat ≤ 13)

def closing (start : Nat) : Reading Unit := do
  if ← accept ')' then return () else flawAt .unclosedGroup start

def itemsPattern (items : List Item) : Pattern := sequence (items.reverse.map Item.pattern)

mutual

-- Alternatives with a bar between them.
def alternatives (flags : Flags) (top : Bool) : Nat → Reading Pattern
  | 0 => return .empty
  | fuel + 1 => do
    let first ← items flags top [] fuel
    let rest ← branches flags top fuel
    return choice (first :: rest)

def branches (flags : Flags) (top : Bool) : Nat → Reading (List Pattern)
  | 0 => return []
  | fuel + 1 => do
    if ← accept '|' then
      let whole ← get
      let flags := if top then whole.flags else flags
      let next ← items flags false [] fuel
      let rest ← branches flags top fuel
      return next :: rest
    else return []

-- A row of items, the last one first; flags of the whole pattern may stand before the first item when `first` holds.
def items (flags : Flags) (first : Bool) (read : List Item) : Nat → Reading Pattern
  | 0 => return itemsPattern read
  | fuel + 1 => do
    match ← peek with
    | none | some (.plain '|') | some (.plain ')') => return itemsPattern read
    | some token =>
      let _ ← take
      match token with
      | .escaped c => items flags first ((← escape flags c) :: read) fuel
      | .plain c =>
        if flags.verbose && isVerboseSpace c then items flags first read fuel
        else if flags.verbose && c == '#' then
          skipLine (← remaining)
          items flags first read fuel
        else match c with
          | '[' => items flags first (⟨← charSet flags, .other⟩ :: read) fuel
          | '.' => items flags first (⟨.any flags.dotAll, .other⟩ :: read) fuel
          | '^' =>
            let anchor := if flags.multiline then Anchor.lineStart else Anchor.textStart
            items flags first (⟨.anchor anchor, .anchor⟩ :: read) fuel
          | '$' =>
            let anchor := if flags.multiline then Anchor.lineEnd else Anchor.lastLineEnd
            items flags first (⟨.anchor anchor, .anchor⟩ :: read) fuel
          | '(' =>
            let start := (← place) - 1
            match ← opening flags start (first && read.isEmpty) with
            | .nothing => items flags first read fuel
            | .flags flags => items flags first read fuel
            | .item item => items flags first (item :: read) fuel
            | .group inner index isAtomic =>
              let body ← alternatives inner false fuel
              closing start
              match index with
              | some index =>
                closeGroup index body
                items flags first (⟨.group index body, .other⟩ :: read) fuel
              | none => items flags first (⟨if isAtomic then .atomic body else body, .other⟩ :: read) fuel
            | .look ahead negated =>
              let outer := (← get).behind
              if !ahead then modify fun source => { source with behind := some (outer.getD source.groups.length) }
              let body ← alternatives flags false fuel
              modify fun source => { source with behind := outer }
              closing start
              items flags first (⟨.look ahead negated body, .other⟩ :: read) fuel
            | .condition index =>
              let yes ← items flags false [] fuel
              let no ← do
                if ← accept '|' then
                  let no ← items flags false [] fuel
                  if (← peek) == some (.plain '|') then flaw .thirdBranch 0 else pure no
                else pure Pattern.empty
              closing start
              items flags first (⟨.ifGroup index yes no, .other⟩ :: read) fuel
          | _ =>
            if c == '?' || c == '*' || c == '+' || c == '\x7b' then
              let mark := (← place) - 1
              match ← bounds? c with
              | none => items flags first (⟨.char c.toNat flags.folding, .other⟩ :: read) fuel
              | some (least, most) => items flags first (← quantified mark least most read) fuel
            else items flags first (⟨.char c.toNat flags.folding, .other⟩ :: read) fuel

end

/- The whole text -/

def operatorName : Greed → String
  | .greedy => "MAX_REPEAT"
  | .lazy => "MIN_REPEAT"
  | .possessive => "POSSESSIVE_REPEAT"

def behindLimit : Nat := Nat.pow 2 32 - 1

-- The first part that cannot be matched: a lookbehind whose width varies, or a repetition in a template.
def objection? (template : Bool) : Pattern → Option Flaw
  | .empty | .char _ _ | .set _ | .any _ | .anchor _ | .again _ _ _ _ => none
  | .seq first second => (objection? template first).orElse fun _ => objection? template second
  | .alt first second => (objection? template first).orElse fun _ => objection? template second
  | .group _ body => objection? template body
  | .rep greed _ _ body =>
    if template then some (.templateRepeat (operatorName greed)) else objection? template body
  | .atomic body => objection? template body
  | .look ahead _ body =>
    let (low, high) := body.width
    if ahead then objection? template body
    else if behindLimit < low then some .farBehind
    else if low != high then some .variableBehind
    else objection? template body
  | .ifGroup _ yes no => (objection? template yes).orElse fun _ => objection? template no

def whole (fuel : Nat) : Reading Pattern := do
  let _ ← take
  let pattern ← alternatives .none true fuel
  let source ← get
  if source.flags.asciiOnly && source.flags.unicode then throw .incompatibleFlags
  else if source.flags.asciiOnly && source.flags.locale then throw .incompatibleLocale
  else if source.token.isSome then flaw .unbalanced 0
  else match source.forward.find? fun (index, _) => source.groups.length ≤ index with
    | some (index, mark) => flawAt (.noSuchGroup index) mark
    | none =>
      match objection? source.flags.template pattern with
      | some flaw => throw (.flawed flaw none)
      | none => return pattern

def readIn (dialect : Dialect) (text : List Char) : Except Invalid Pattern :=
  match (whole (4 * text.length + 8)).run (.begin dialect text) with
  | .ok (pattern, _) => .ok pattern
  | .error invalid => .error invalid

def readList (text : List Char) : Except Invalid Pattern := readIn .plain text

end Gatehouse.PatternText

namespace Gatehouse.Pattern

def read (text : String) : Except PatternText.Invalid Pattern := PatternText.readList text.toList

end Gatehouse.Pattern
