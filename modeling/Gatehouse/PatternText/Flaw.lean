import Gatehouse.Text.Quoted

/- What is wrong with the text of a pattern. -/
namespace Gatehouse.PatternText

inductive Flaw where
  | escapeAtEnd
  | badEscape (text : String)
  | incompleteEscape (text : String)
  | missingBrace
  | unknownCharacter (name : String)
  | largeOctal (text : String)
  | openGroup
  | lookbehindGroup
  | noSuchGroup (index : Nat)
  | openSet
  | badRange (first last : String)
  | emptyRepeat
  | nothingToRepeat
  | repeatTwice
  | missingName (what : String)
  | openName (terminator : Char)
  | badGroupName (name : String)
  | groupTwice (name : String) (index earlier : Nat)
  | unknownGroup (name : String)
  | unexpectedEnd
  | unknownExtension (text : String)
  | openComment
  | unclosedGroup
  | badGroupNumber
  | thirdBranch
  | lateFlags
  | localeFlag
  | unicodeFlag
  | conflictingFlags
  | fixedFlags
  | unknownFlag
  | missingFlag
  | missingColon
  | missingFlagEnd
  | globalFlagOn
  | globalFlagOff
  | flagOnAndOff
  | unbalanced
  | farBehind
  | variableBehind
  | templateRepeat (operator : String)
deriving DecidableEq

-- Besides a flaw, a bound that is no number in reach, or flags of the whole pattern that exclude each other.
inductive Invalid where
  | flawed (flaw : Flaw) (place : Option Nat)
  | repeatTooLarge
  | tooManyDigits (count : Nat)
  | incompatibleFlags
  | incompatibleLocale
deriving DecidableEq

def Flaw.message : Flaw → String
  | .escapeAtEnd => "bad escape (end of pattern)"
  | .badEscape text => "bad escape " ++ text
  | .incompleteEscape text => "incomplete escape " ++ text
  | .missingBrace => "missing \x7b"
  | .unknownCharacter name => "undefined character name " ++ Text.quoted name
  | .largeOctal text => "octal escape value " ++ text ++ " outside of range 0-0o377"
  | .openGroup => "cannot refer to an open group"
  | .lookbehindGroup => "cannot refer to group defined in the same lookbehind subpattern"
  | .noSuchGroup index => "invalid group reference " ++ toString index
  | .openSet => "unterminated character set"
  | .badRange first last => "bad character range " ++ first ++ "-" ++ last
  | .emptyRepeat => "min repeat greater than max repeat"
  | .nothingToRepeat => "nothing to repeat"
  | .repeatTwice => "multiple repeat"
  | .missingName what => "missing " ++ what
  | .openName terminator => "missing " ++ terminator.toString ++ ", unterminated name"
  | .badGroupName name => "bad character in group name " ++ Text.quoted name
  | .groupTwice name index earlier =>
    "redefinition of group name " ++ Text.quoted name ++ " as group " ++ toString index ++ "; was group " ++
      toString earlier
  | .unknownGroup name => "unknown group name " ++ Text.quoted name
  | .unexpectedEnd => "unexpected end of pattern"
  | .unknownExtension text => "unknown extension " ++ text
  | .openComment => "missing ), unterminated comment"
  | .unclosedGroup => "missing ), unterminated subpattern"
  | .badGroupNumber => "bad group number"
  | .thirdBranch => "conditional backref with more than two branches"
  | .lateFlags => "global flags not at the start of the expression"
  | .localeFlag => "bad inline flags: cannot use 'L' flag with a str pattern"
  | .unicodeFlag => "bad inline flags: cannot use 'u' flag with a bytes pattern"
  | .conflictingFlags => "bad inline flags: flags 'a', 'u' and 'L' are incompatible"
  | .fixedFlags => "bad inline flags: cannot turn off flags 'a', 'u' and 'L'"
  | .unknownFlag => "unknown flag"
  | .missingFlag => "missing flag"
  | .missingColon => "missing :"
  | .missingFlagEnd => "missing -, : or )"
  | .globalFlagOn => "bad inline flags: cannot turn on global flag"
  | .globalFlagOff => "bad inline flags: cannot turn off global flag"
  | .flagOnAndOff => "bad inline flags: flag turned on and off"
  | .unbalanced => "unbalanced parenthesis"
  | .farBehind => "looks too much behind"
  | .variableBehind => "look-behind requires fixed-width pattern"
  | .templateRepeat operator => "internal: unsupported template operator " ++ operator

-- A place is told with its line and column when the pattern has several lines.
def placeText (pattern : List Char) (place : Nat) : String :=
  let before := pattern.take place
  let line := before.count '\n' + 1
  let column := (before.reverse.takeWhile (· != '\n')).length + 1
  " at position " ++ toString place ++
    if pattern.contains '\n' then " (line " ++ toString line ++ ", column " ++ toString column ++ ")" else ""

def Invalid.message (pattern : String) : Invalid → String
  | .flawed flaw none => flaw.message
  | .flawed flaw (some place) => flaw.message ++ placeText pattern.toList place
  | .repeatTooLarge => "the repetition number is too large"
  | .tooManyDigits count => "Exceeds the limit (4300 digits) for integer string conversion: value has " ++
      toString count ++ " digits; use sys.set_int_max_str_digits() to increase the limit"
  | .incompatibleFlags => "ASCII and UNICODE flags are incompatible"
  | .incompatibleLocale => "ASCII and LOCALE flags are incompatible"

end Gatehouse.PatternText
