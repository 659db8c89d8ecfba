import Gatehouse.Text.Hex
import Gatehouse.Text.Printable

/- A text between quotes, as the journal shows it: single quotes, unless only those occur in the text. What
   cannot be printed is written by its code. -/
namespace Gatehouse.Text

def quoteFor (text : List Char) : Char :=
  if text.contains '\'' && !text.contains '"' then '"' else '\''

def shown (quote c : Char) : List Char :=
  if c == '\\' || c == quote then ['\\', c]
  else if c == '\n' then ['\\', 'n']
  else if c == '\r' then ['\\', 'r']
  else if c == '\t' then ['\\', 't']
  else if isPrintable c then [c]
  else if c.toNat < 0x100 then '\\' :: 'x' :: hex 2 c.toNat
  else if c.toNat < 0x10000 then '\\' :: 'u' :: hex 4 c.toNat
  else '\\' :: 'U' :: hex 8 c.toNat

def quotedList (text : List Char) : List Char :=
  quoteFor text :: text.flatMap (shown (quoteFor text)) ++ [quoteFor text]

def quoted (text : String) : String := String.ofList (quotedList text.toList)

-- Texts in brackets, separated by a comma and a space.
def quotedItems (items : List String) : String :=
  "[" ++ String.intercalate ", " (items.map quoted) ++ "]"

end Gatehouse.Text
