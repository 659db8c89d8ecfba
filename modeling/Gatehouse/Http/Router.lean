import Gatehouse.Http.Basic
import Gatehouse.Journal
import Gatehouse.Refusal

/- Routes of the webhook. The first route that has the path and takes the method answers; a path that only lacks or
   only has slashes at its end is redirected. Every request is told with its status, and a route that fails is told
   and answered as a failure of the server. -/
namespace Gatehouse.Http

structure Route where
  path : String
  methods : List String
  respond : Delivery → Told Refusal Answer

def Route.takes (route : Route) (request : Request) : Bool :=
  route.path == request.path && route.methods.contains request.method

abbrev Router := List Route

namespace Router

def hasPath (routes : Router) (path : String) : Bool := routes.any fun route => route.path == path

-- The path with the slashes at its end taken away, or with one put there when it has none.
def otherPath (path : String) : String :=
  if path.toList.getLast? == some '/' then String.ofList (path.toList.reverse.dropWhile (· == '/')).reverse
  else path ++ "/"

def sortedMethods (methods : List String) : List String := methods.mergeSort fun a b => decide (a ≤ b)

def respond (routes : Router) (request : Request) : Told Refusal Answer :=
  match routes.find? (·.takes request) with
  | some route => route.respond request.delivery
  | none =>
    match routes.find? fun route => route.path == request.path with
    | some route => pure (.notAllowed (sortedMethods route.methods))
    | none =>
      let other := otherPath request.path
      if request.path != "/" && hasPath routes other then pure (.redirected (other ++ request.query))
      else pure .notFound

def shown (request : Request) : String := request.method ++ " " ++ request.path

-- One request, with what is told of it.
def handle (routes : Router) (request : Request) : Journal × Answer :=
  let responded := routes.respond request
  match responded.outcome with
  | .ok answer =>
    (responded.journal ++ [⟨.info, shown request ++ " " ++ toString answer.status⟩], answer)
  | .error refusal =>
    (responded.journal ++ [⟨.error, "Unhandled error serving " ++ shown request ++ ": " ++ refusal.message⟩],
      .broken)

end Router
end Gatehouse.Http
