import Gatehouse.Endpoint.Basic

/- Endpoints whose decision function keeps to no type. A failure may say with any value whether it allows, and a
   response may not take the mark of its request, or hold what cannot be written. Where an answer cannot even be built
   the request is left without one: what was raised leaves the endpoint. A decision that keeps to the types is handled
   as that of any endpoint. -/
namespace Gatehouse

/-- A failure that says how it is to be answered, with any value in the place of a truth value. A value that no
    document has is read as null is. -/
structure Declared where
  allowed : Json
  message : String
  debug : String

namespace Declared

def text (failure : Declared) : String :=
  "admission error: " ++ failure.message ++ " (allowed: " ++
    String.ofList (failure.allowed.plain.toList.map Char.toLower) ++ ")"

-- The failure as it is answered. The response that answers it may not be built.
def classified (failure : Declared) : Except Report Classified :=
  match Format.readBoolean failure.allowed with
  | .ok allowed => .ok ⟨allowed, failure.message, failure.debug⟩
  | .error fault => .error ⟨Response.title, [⟨[.key "allowed"], fault⟩]⟩

end Declared

-- What a decision function raises.
inductive Thrown where
  | refusal (refusal : Refusal)
  | declared (failure : Declared)

-- What it gives when it raises nothing; a sealed response fails so when a mark is written into it.
inductive Yield where
  | verdict (verdict : Verdict)
  | sealed (failure : Foreign)
  | unwritable (reason : String)

-- What leaves an endpoint in place of an answer.
inductive Escape where
  | invalid (report : Report)
  | foreign (failure : Foreign)
deriving DecidableEq

structure OpenEndpoint where
  judge : Review → Told Thrown Yield
  label : String
  limit : Nat

-- What a decision comes to.
inductive Settlement where
  | kept (outcome : Except Refusal Verdict)
  | unwritable (reason : String)
  | unclear (failure : Declared) (report : Report)
  | sealed (failure : Foreign)

def Settlement.of : Except Thrown Yield → Settlement
  | .ok (.verdict verdict) => .kept (.ok verdict)
  | .ok (.sealed failure) => .sealed failure
  | .ok (.unwritable reason) => .unwritable reason
  | .error (.refusal refusal) => .kept (.error refusal)
  | .error (.declared failure) =>
    match failure.classified with
    | .ok classified => .kept (.error (.classified classified))
    | .error report => .unclear failure report

namespace OpenEndpoint

-- The endpoint with a decision function that keeps to the types.
def keeping (judge : Review → Told Refusal Verdict) (endpoint : OpenEndpoint) : Endpoint :=
  ⟨judge, endpoint.label, endpoint.limit⟩

def receive (endpoint : OpenEndpoint) (delivery : Delivery) : Told Classified (Review × Request) :=
  (endpoint.keeping fun _ => pure .nothing).receive delivery

def warning (failure : Declared) : Entry := ⟨.warning, failure.message ++ " (debug: " ++ failure.debug ++ ")"⟩

-- One encoding of what cannot be written. It uses up a failure that was still to come.
def failEncoding (failures : Nat) (reason : String) : Nat × String :=
  match failures with
  | 0 => (0, reason)
  | left + 1 => (left, "cannot encode")

-- The rest of a request whose decision has been told.
def settle (endpoint : OpenEndpoint) (failures : Nat) (delivery : Delivery) (origin : Origin) (told : Journal) :
    Settlement → Nat × Journal × Except Escape Answer
  | .kept outcome =>
    let (left, journal, answer) := (endpoint.keeping fun _ => ⟨told, outcome⟩).handle failures delivery
    (left, journal, .ok answer)
  | .unwritable reason =>
    let (left, reason) := failEncoding failures reason
    let (left, journal, answer) := Endpoint.answerFailure left origin ⟨false, Message.text .marshalFailed, reason⟩
    (left, (endpoint.receive delivery).journal ++ told ++ journal, .ok answer)
  | .unclear failure report =>
    (failures, (endpoint.receive delivery).journal ++ told ++ [warning failure], .error (.invalid report))
  | .sealed failure => (failures, (endpoint.receive delivery).journal ++ told, .error (.foreign failure))

/-- Handles one request; `failures` encodings are still going to fail. -/
def handle (endpoint : OpenEndpoint) (failures : Nat) (delivery : Delivery) : Nat × Journal × Except Escape Answer :=
  match (endpoint.receive delivery).outcome with
  | .error failure =>
    let (left, told, answer) := Endpoint.answerFailure failures Endpoint.Origin.unknown failure
    (left, (endpoint.receive delivery).journal ++ told, .ok answer)
  | .ok (review, request) =>
    let decided := endpoint.judge review
    endpoint.settle failures delivery ⟨review.apiVersion, request.uid⟩ decided.journal (.of decided.outcome)

def handleAll (endpoint : OpenEndpoint) (failures : Nat) : List Delivery → List (Journal × Except Escape Answer)
  | [] => []
  | delivery :: rest =>
    let (failures, told, result) := endpoint.handle failures delivery
    (told, result) :: endpoint.handleAll failures rest

end OpenEndpoint

-- Every endpoint is an open one.
def Endpoint.opened (endpoint : Endpoint) : OpenEndpoint where
  judge review :=
    let decided := endpoint.judge review
    ⟨decided.journal, (decided.outcome.map Yield.verdict).mapError Thrown.refusal⟩
  label := endpoint.label
  limit := endpoint.limit

end Gatehouse
