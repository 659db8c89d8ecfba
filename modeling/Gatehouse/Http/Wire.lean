import Gatehouse.Http.Basic
import Gatehouse.Text.Blank

/- The wire form of requests and answers. The head of a request is its lines up to the first empty one; the body has
   as many bytes as the head says. -/
namespace Gatehouse.Http

structure Head where
  method : String
  target : String
  length : Nat
deriving DecidableEq

namespace Head

-- The method and the target stand first in the opening line, parted by single spaces.
def opening? (line : String) : Option (String × String) :=
  match (Text.split ' ' line.toList).map String.ofList with
  | [method, target, _] => some (method, target)
  | _ => none

def isLengthName (name : List Char) : Bool :=
  (Text.trim name).map Char.toLower == "content-length".toList

-- The number of bytes that a header line gives to the body.
def length? (line : String) : Option Nat :=
  match Text.split ':' line.toList with
  | [name, value] => if isLengthName name then (String.ofList (Text.trim value)).toNat? else none
  | _ => none

def ofLines? : List String → Option Head
  | [] => none
  | first :: headers =>
    (opening? first).map fun (method, target) => ⟨method, target, (headers.findSome? length?).getD 0⟩

-- A body that has fewer bytes than the head says was left by its client.
def request (head : Head) (body : ByteArray) : Request :=
  ⟨head.method, head.target, ⟨if body.isEmpty then [] else [body], body.size < head.length⟩⟩

end Head

def reason (status : Nat) : String :=
  match status with
  | 200 => "OK"
  | 307 => "Temporary Redirect"
  | 404 => "Not Found"
  | 405 => "Method Not Allowed"
  | _ => "Internal Server Error"

def lineEnd : String := "\r\n"

def header (name value : String) : String := name ++ ": " ++ value ++ lineEnd

def Answer.wireText (answer : Answer) : String :=
  "HTTP/1.1 " ++ toString answer.status ++ " " ++ reason answer.status ++ lineEnd ++
    (match answer.contentType with
      | some type => header "content-type" type
      | none => "") ++
    (if answer.allow.isEmpty then "" else header "allow" (String.intercalate ", " answer.allow)) ++
    (match answer.location with
      | some location => header "location" location
      | none => "") ++
    header "content-length" (toString answer.body.utf8ByteSize) ++ lineEnd ++ answer.body

end Gatehouse.Http
