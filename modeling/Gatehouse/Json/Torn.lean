import Gatehouse.Json.Reader

/- JSON text as it is decoded where a text need not be one of characters. An escape of a surrogate that stands without
   its partner is read as a mark, which stands for no character that is ever written. -/
namespace Gatehouse.Json

def tornMark : Char := '\ufdd0'

def tornEscape : List Char := ['\\', 'u', 'f', 'd', 'd', '0']

-- The text with marks instead of such escapes. No place is shifted, so that failures are told as they are.
def mendedFrom : Nat → List Char → List Char
  | 0, text => text
  | fuel + 1, text =>
    match text with
    | [] => []
    | '\\' :: 'u' :: rest =>
      match unicodeEscape rest rest with
      | .ok (_, after) => text.take (text.length - after.length) ++ mendedFrom fuel after
      | .error failure =>
        if failure.reason = .loneSurrogate then tornEscape ++ mendedFrom fuel (rest.drop 4) else text
    | '\\' :: c :: rest => '\\' :: c :: mendedFrom fuel rest
    | c :: rest => c :: mendedFrom fuel rest

def mended (text : String) : String := String.ofList (mendedFrom (text.length + 1) text.toList)

def decode (text : String) : Except Failure Json :=
  match readFreely text with
  | .ok value => .ok value
  | .error failure => if failure.reason = .loneSurrogate then readFreely (mended text) else .error failure

-- A text of characters throughout.
def isWhole (text : String) : Bool := !text.toList.contains tornMark

end Gatehouse.Json
