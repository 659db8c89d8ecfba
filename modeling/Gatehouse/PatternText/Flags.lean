import Gatehouse.PatternText.Source
import Gatehouse.Text.Digit
import Gatehouse.Text.Word

/- Flags within a pattern. They hold for the whole of it when they stand at its start, and for a group otherwise. -/
namespace Gatehouse.PatternText

open Pattern

inductive Flag where
  | ignoreCase
  | multiline
  | dotAll
  | verbose
  | asciiOnly
  | unicode
  | template
  | locale
deriving DecidableEq

def flag? : Char → Option Flag
  | 'i' => some .ignoreCase
  | 'm' => some .multiline
  | 's' => some .dotAll
  | 'x' => some .verbose
  | 'a' => some .asciiOnly
  | 'u' => some .unicode
  | 't' => some .template
  | 'L' => some .locale
  | _ => none

def Flags.put (flags : Flags) (value : Bool) : Flag → Flags
  | .ignoreCase => { flags with ignoreCase := value }
  | .multiline => { flags with multiline := value }
  | .dotAll => { flags with dotAll := value }
  | .verbose => { flags with verbose := value }
  | .asciiOnly =>
    { flags with asciiOnly := value, unicode := flags.unicode && !value, locale := flags.locale && !value }
  | .unicode =>
    { flags with unicode := value, asciiOnly := flags.asciiOnly && !value, locale := flags.locale && !value }
  | .template => { flags with template := value }
  | .locale =>
    { flags with locale := value, asciiOnly := flags.asciiOnly && !value, unicode := flags.unicode && !value }

def isType (flag : Flag) : Bool := flag == .asciiOnly || flag == .unicode || flag == .locale

-- The flag that a pattern cannot turn on at all, for what it is written in.
def Dialect.bars? : Dialect → Flag → Option Flaw
  | .characters _, .locale => some .localeFlag
  | .bytes, .unicode => some .unicodeFlag
  | _, _ => none

def isLetter (c : Char) : Bool := Text.isAlphanumeric c && !Text.isDigit c

-- A token where a flag was expected.
def wrongFlag {α : Type} (token : Token) (otherwise : Flaw) : Reading α :=
  match token with
  | .plain c => flaw (if isLetter c then .unknownFlag else otherwise) 1
  | .escaped _ => flaw otherwise 2

-- Flags to turn on, up to a closing parenthesis, a colon or a minus sign, which is given as well.
def flagsOn : Nat → Flag → List Flag → Reading (List Flag × Char)
  | 0, _, _ => flaw .missingFlagEnd 0
  | fuel + 1, flag, flags => do
    match (← get).dialect.bars? flag with
    | some barred => flaw barred 0
    | none =>
      if isType flag && (flags.any fun other => isType other && other != flag) then flaw .conflictingFlags 0
      else
        let flags := flags ++ [flag]
        match ← take with
        | none => flaw .missingFlagEnd 0
        | some token =>
          match token with
          | .plain c =>
            if c == ')' || c == '-' || c == ':' then return (flags, c)
            else match flag? c with
              | some next => flagsOn fuel next flags
              | none => wrongFlag token .missingFlagEnd
          | .escaped _ => wrongFlag token .missingFlagEnd

-- Flags to turn off, up to a colon.
def flagsOff : Nat → Flag → List Flag → Reading (List Flag)
  | 0, _, _ => flaw .missingColon 0
  | fuel + 1, flag, flags => do
    if isType flag then flaw .fixedFlags 0
    else
      let flags := flags ++ [flag]
      match ← take with
      | none => flaw .missingColon 0
      | some token =>
        match token with
        | .plain ':' => return flags
        | .plain c =>
          match flag? c with
          | some next => flagsOff fuel next flags
          | none => wrongFlag token .missingColon
        | .escaped _ => wrongFlag token .missingColon

def firstFlagOff : Reading (List Flag) := do
  match ← take with
  | none => flaw .missingFlag 0
  | some token =>
    match token with
    | .plain c =>
      match flag? c with
      | some flag => flagsOff (← remaining) flag []
      | none => wrongFlag token .missingFlag
    | .escaped _ => wrongFlag token .missingFlag

inductive FlagScope where
  | whole (on : List Flag)
  | group (on off : List Flag)

-- The flags after an opening parenthesis and a question mark; `c` is their first character.
def flagScope (c : Char) : Reading FlagScope := do
  let (on, stop) ← match flag? c with
    | some flag => flagsOn (← remaining) flag []
    | none => pure ([], '-')
  if stop == ')' then return .whole on
  else if on.contains .template then flaw .globalFlagOn 1
  else
    let off ← if stop == '-' then firstFlagOff else pure []
    if off.contains .template then flaw .globalFlagOff 1
    else if on.any off.contains then flaw .flagOnAndOff 1
    else return .group on off

def Flags.turn (flags : Flags) (on off : List Flag) : Flags :=
  let raised := on.foldl (fun flags flag => flags.put true flag) flags
  off.foldl (fun flags flag => flags.put false flag) raised

-- Flags of the whole pattern add up; those of one type do not exclude those of another yet.
def turnWhole (on : List Flag) : Reading Flags := do
  let source ← get
  let flags := on.foldl
    (fun (flags : Flags) flag => match flag with
      | .asciiOnly => { flags with asciiOnly := true }
      | .unicode => { flags with unicode := true }
      | .locale => { flags with locale := true }
      | other => flags.put true other)
    source.flags
  set { source with flags := flags }
  return flags

end Gatehouse.PatternText
