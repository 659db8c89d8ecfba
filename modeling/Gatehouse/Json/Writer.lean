import Gatehouse.Json.Basic
import Gatehouse.Text.Hex

/- JSON text. A style says how characters beyond the visible ones of ASCII, floating point numbers and the numbers that
   are not finite are written. `compact` is the form of every answer; `ascii` that of an embedded object; `indented`
   the form people read. -/
namespace Gatehouse.Json

structure Style where
  asciiOnly : Bool
  layout : Decimal.Layout
  nonFinite : Binary64 → List Char

def units16 (code : Nat) : List Nat :=
  if code < 0x10000 then [code]
  else [0xd800 + (code - 0x10000) / 0x400, 0xdc00 + (code - 0x10000) % 0x400]

def escapeUnit (unit : Nat) : List Char := '\\' :: 'u' :: Text.hex 4 unit

def escape (style : Style) (c : Char) : List Char :=
  if c == '"' then ['\\', '"']
  else if c == '\\' then ['\\', '\\']
  else if c == '\n' then ['\\', 'n']
  else if c == '\r' then ['\\', 'r']
  else if c == '\t' then ['\\', 't']
  else if c.toNat == 8 then ['\\', 'b']
  else if c.toNat == 12 then ['\\', 'f']
  else if c.toNat < 32 then escapeUnit c.toNat
  else if style.asciiOnly && 127 ≤ c.toNat then (units16 c.toNat).flatMap escapeUnit
  else [c]

def writeString (style : Style) (text : String) : List Char :=
  '"' :: text.toList.flatMap (escape style) ++ ['"']

def writeInt (value : Int) : List Char :=
  if value < 0 then '-' :: Decimal.numeral value.natAbs else Decimal.numeral value.natAbs

def writeFloat (style : Style) : Binary64 → List Char
  | .finite negative rank => style.layout.write negative rank
  | other => style.nonFinite other

mutual

def write (style : Style) : Json → List Char
  | .null => ['n', 'u', 'l', 'l']
  | .bool true => ['t', 'r', 'u', 'e']
  | .bool false => ['f', 'a', 'l', 's', 'e']
  | .int value => writeInt value
  | .float value => writeFloat style value
  | .string text => writeString style text
  | .array items => '[' :: writeItems style items ++ [']']
  | .object members => '\x7b' :: writeMembers style members ++ ['\x7d']

def writeItems (style : Style) : List Json → List Char
  | [] => []
  | [item] => write style item
  | item :: next :: rest => write style item ++ ',' :: writeItems style (next :: rest)

def writeMembers (style : Style) : Members → List Char
  | [] => []
  | [(key, value)] => writeString style key ++ ':' :: write style value
  | (key, value) :: next :: rest =>
    writeString style key ++ ':' :: write style value ++ ',' :: writeMembers style (next :: rest)

end

def compact : Style where
  asciiOnly := false
  layout := ⟨-5⟩
  nonFinite := fun _ => ['n', 'u', 'l', 'l']

def ascii : Style where
  asciiOnly := true
  layout := ⟨-4⟩
  nonFinite
    | .infinite false => "Infinity".toList
    | .infinite true => "-Infinity".toList
    | _ => "NaN".toList

def text (style : Style) (value : Json) : String := String.ofList (write style value)

/- The indented form: a member or an item to a line, two spaces deeper than what holds it. -/

def lineBreak (depth : Nat) : List Char := '\n' :: List.replicate (2 * depth) ' '

mutual

def writeIndented (style : Style) (depth : Nat) : Json → List Char
  | .array (item :: rest) =>
    '[' :: indentedItems style (depth + 1) (item :: rest) ++ lineBreak depth ++ [']']
  | .object (member :: rest) =>
    '\x7b' :: indentedMembers style (depth + 1) (member :: rest) ++ lineBreak depth ++ ['\x7d']
  | .array [] => ['[', ']']
  | .object [] => ['\x7b', '\x7d']
  | .null => write style .null
  | .bool value => write style (.bool value)
  | .int value => write style (.int value)
  | .float value => write style (.float value)
  | .string text => write style (.string text)

def indentedItems (style : Style) (depth : Nat) : List Json → List Char
  | [] => []
  | [item] => lineBreak depth ++ writeIndented style depth item
  | item :: next :: rest =>
    lineBreak depth ++ writeIndented style depth item ++ ',' :: indentedItems style depth (next :: rest)

def indentedMembers (style : Style) (depth : Nat) : Members → List Char
  | [] => []
  | [(key, value)] => lineBreak depth ++ writeString style key ++ ':' :: ' ' :: writeIndented style depth value
  | (key, value) :: next :: rest =>
    lineBreak depth ++ writeString style key ++ ':' :: ' ' :: writeIndented style depth value ++
      ',' :: indentedMembers style depth (next :: rest)

end

def indentedText (style : Style) (value : Json) : String := String.ofList (writeIndented style 0 value)

end Gatehouse.Json
