import Gatehouse.Endpoint.Body
import Gatehouse.Json.Writer
import Gatehouse.Text.Split

/- Requests and answers of the webhook. Routes are found by the path alone. -/
namespace Gatehouse.Http

structure Request where
  method : String
  target : String
  delivery : Delivery

def Request.path (request : Request) : String := String.ofList (request.target.toList.takeWhile (· != '?'))

-- The query of a request, with its mark.
def Request.query (request : Request) : String := String.ofList (request.target.toList.dropWhile (· != '?'))

structure Answer where
  status : Nat
  contentType : Option String
  -- The methods that the path takes, when the method of the request is not one of them.
  allow : List String
  -- Where the request is to be made instead.
  location : Option String
  body : String
deriving DecidableEq

namespace Answer

def jsonType : String := "application/json"

def json (status : Nat) (value : Json) : Answer := ⟨status, some jsonType, [], none, value.text Json.compact⟩

def text (body : String) : Answer := ⟨200, some "text/plain; charset=utf-8", [], none, body⟩

def empty (status : Nat) : Answer := ⟨status, none, [], none, ""⟩

def notFound : Answer := json 404 (.object [("detail", .string "Not Found")])

def notAllowed (methods : List String) : Answer :=
  { json 405 (.object [("detail", .string "Method Not Allowed")]) with allow := methods }

def redirected (location : String) : Answer := { empty 307 with location := some location }

def broken : Answer := empty 500

end Answer
end Gatehouse.Http
