import Gatehouse.Text.Ranges

/- White space. `isWhite` is the Unicode property White_Space; `isBlank` adds the four information separators. -/
namespace Gatehouse.Text

def isWhite (c : Char) : Bool :=
  Ranges.covers [(0x9, 0xd), (0x20, 0x20), (0x85, 0x85), (0xa0, 0xa0), (0x1680, 0x1680), (0x2000, 0x200a),
    (0x2028, 0x2029), (0x202f, 0x202f), (0x205f, 0x205f), (0x3000, 0x3000)] c.toNat

def isBlank (c : Char) : Bool := isWhite c || (0x1c ≤ c.toNat && c.toNat ≤ 0x1f)

def trimBy (blank : Char → Bool) (text : List Char) : List Char :=
  ((text.dropWhile blank).reverse.dropWhile blank).reverse

def trim (text : List Char) : List Char := trimBy isBlank text

def trimmed (text : String) : String := String.ofList (trim text.toList)

end Gatehouse.Text
