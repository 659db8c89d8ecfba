/- A text cut at every occurrence of one character. -/
namespace Gatehouse.Text

def split (mark : Char) : List Char → List (List Char)
  | [] => [[]]
  | c :: rest =>
    if c == mark then [] :: split mark rest
    else
      match split mark rest with
      | [] => [[c]]
      | first :: others => (c :: first) :: others

end Gatehouse.Text
