/- Segments of a JSON pointer. A segment writes '~' as "~0" and '/' as "~1", so that a slash only separates
   segments. -/
namespace Gatehouse.Pointer

def escapeChar (c : Char) : List Char :=
  if c == '~' then ['~', '0'] else if c == '/' then ['~', '1'] else [c]

def escapeList (key : List Char) : List Char := key.flatMap escapeChar

def escape (key : String) : String := String.ofList (escapeList key.toList)

end Gatehouse.Pointer
