import Gatehouse.Codec
import Gatehouse.Endpoint.Body

/- The endpoint of one decision function. Every request is answered with one review: a failure is classified and
   answered as a denial. Only when even that answer cannot be encoded is the request answered without a review.
   Encoding fails a given number of times first. -/
namespace Gatehouse

-- What a decision function gives when it does not fail.
inductive Verdict where
  | nothing
  | response (response : Response)
  | value (value : Json)

structure Endpoint where
  judge : Review → Told Refusal Verdict
  label : String
  limit : Nat

inductive Answer where
  | review (body : String)
  | failed
deriving DecidableEq

-- What is known of a request when it fails.
structure Origin where
  apiVersion : ApiVersion
  uid : String

namespace Endpoint

def defaultLimit : Nat := 1024 * 1024 * 1024

-- A limit that is not positive stands for the default one.
def effectiveLimit (limit : Option Int) : Nat :=
  match limit with
  | none => defaultLimit
  | some value => if 0 < value then value.toNat else defaultLimit

def Origin.unknown : Origin := ⟨.v1, ""⟩

-- One encoding, and the failures still to come after it.
def encode (failures : Nat) (review : Review) : Nat × Except String String :=
  match failures with
  | 0 => (0, .ok (Codec.encode .review review))
  | failures + 1 => (failures, .error "cannot encode")

def answerWith (apiVersion : ApiVersion) (response : Response) : Review :=
  ⟨apiVersion, Review.title, none, some response⟩

def receive (endpoint : Endpoint) (delivery : Delivery) : Told Classified (Review × Request) := do
  let body ← Told.lift (Body.read endpoint.limit delivery)
  let review ← (Codec.decodeReview body).mapError fun failure =>
    ⟨false, Message.text .decodeFailed, failure.message⟩
  match review.request with
  | none =>
    Told.fail ⟨false, Message.text .invalidReview, "the AdmissionReview did not contain a request"⟩
  | some request => return (review, request)

-- How a failed decision is answered. A failure from outside is told with the request it happened in.
def classify (request : Request) : Refusal → Told Classified Verdict
  | .classified failure => Told.fail failure
  | .foreign failure => do
    Told.tell .error ("Admission function failed for request " ++ request.uid)
    let message := match failure.message with
      | "" => failure.name
      | message => message
    Told.fail ⟨false, message, failure.shown⟩
  | refusal => Told.fail ⟨false, refusal.message, refusal.name ++ " (kind: " ++ request.kind.kind ++ ")"⟩

def ask (endpoint : Endpoint) (review : Review) (request : Request) : Told Classified Verdict :=
  let decided := endpoint.judge review
  match decided.outcome with
  | .ok verdict => ⟨decided.journal, .ok verdict⟩
  | .error refusal =>
    let classified := classify request refusal
    ⟨decided.journal ++ classified.journal, classified.outcome⟩

-- A value in place of a response is read as one.
def responseOf (endpoint : Endpoint) (request : Request) : Verdict → Except Classified Response
  | .nothing =>
    .error ⟨false, Message.text .noResponse,
      endpoint.label ++ " returned None (kind: " ++ request.kind.kind ++ ")"⟩
  | .response response => .ok response
  | .value value =>
    match Response.shape.validate Response.title value with
    | .ok response => .ok response
    | .error report => .error ⟨false, Message.text .marshalFailed, report.text⟩

def decide (endpoint : Endpoint) (review : Review) (request : Request) : Told Classified Review := do
  let verdict ← endpoint.ask review request
  let response ← Told.lift (endpoint.responseOf request verdict)
  return answerWith review.apiVersion { response with uid := request.uid }

-- The answer to a failure, after the failure is told.
def answerFailure (failures : Nat) (origin : Origin) (failure : Classified) : Nat × Journal × Answer :=
  let told : Entry := ⟨.warning, failure.message ++ " (debug: " ++ failure.debug ++ ")"⟩
  let response : Response := ⟨origin.uid, failure.allowed, some ⟨failure.message, none, none⟩, none, none, none⟩
  match encode failures (answerWith origin.apiVersion response) with
  | (failures, .ok body) => (failures, [told], .review body)
  | (failures, .error _) => (failures, [told, ⟨.error, "failed to marshal review response"⟩], .failed)

/-- Answers one request; `failures` encodings are still going to fail. -/
def handle (endpoint : Endpoint) (failures : Nat) (delivery : Delivery) : Nat × Journal × Answer :=
  let received := endpoint.receive delivery
  match received.outcome with
  | .error failure =>
    let (failures, told, answer) := answerFailure failures Origin.unknown failure
    (failures, received.journal ++ told, answer)
  | .ok (review, request) =>
    let decided := endpoint.decide review request
    let before := received.journal ++ decided.journal
    let origin : Origin := ⟨review.apiVersion, request.uid⟩
    match decided.outcome with
    | .error failure =>
      let (failures, told, answer) := answerFailure failures origin failure
      (failures, before ++ told, answer)
    | .ok outgoing =>
      match encode failures outgoing with
      | (failures, .ok body) => (failures, before, .review body)
      | (failures, .error reason) =>
        let (failures, told, answer) :=
          answerFailure failures origin ⟨false, Message.text .marshalFailed, reason⟩
        (failures, before ++ told, answer)

-- A sequence of requests to one endpoint.
def handleAll (endpoint : Endpoint) (failures : Nat) : List Delivery → List (Journal × Answer)
  | [] => []
  | delivery :: rest =>
    let (failures, told, answer) := endpoint.handle failures delivery
    (told, answer) :: endpoint.handleAll failures rest

end Endpoint
end Gatehouse
