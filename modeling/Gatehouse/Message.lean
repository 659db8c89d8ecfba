/- The wordings that a user of the cluster sees. A wording has slots that are filled by name. -/
namespace Gatehouse

inductive Message where
  | ingressDenied
  | namespaceWhitelisted
  | publicLoadBalancer
  | unsupportedProvider
  | podsMissingAnnotations
  | nilPredicate
  | unsupportedKind
  | notAPod
  | noBody
  | readFailed
  | bodyTooLarge
  | decodeFailed
  | invalidReview
  | noResponse
  | marshalFailed
deriving DecidableEq

inductive Piece where
  | words (text : String)
  | slot (name : String)

namespace Message

def pieces : Message → List Piece
  | .ingressDenied => [.slot "kind", .words " objects cannot be deployed to this cluster"]
  | .namespaceWhitelisted =>
    [.words "allowing admission: ", .slot "namespace", .words " namespace is whitelisted"]
  | .publicLoadBalancer =>
    [.slot "kind", .words " objects of type: LoadBalancer without an internal-only annotation ",
      .words "cannot be deployed to this cluster"]
  | .unsupportedProvider =>
    [.words "cannot validate the internal load balancer annotation for the given provider (", .slot "provider",
      .words ")"]
  | .podsMissingAnnotations => [.words "the submitted Pods are missing required annotations:"]
  | .nilPredicate =>
    [.words "the validator for the annotation ", .slot "key", .words " is nil (misconfigured webhook)"]
  | .unsupportedKind => [.words "the submitted Kind is not supported by this admission handler:"]
  | .notAPod => [.words "object was not a pod, ", .slot "kind"]
  | .noBody => [.words "no request body was received"]
  | .readFailed => [.words "could not read the request body"]
  | .bodyTooLarge => [.words "the request body exceeds the ", .slot "limit", .words " byte limit"]
  | .decodeFailed => [.words "decoding the review request failed"]
  | .invalidReview => [.words "received invalid AdmissionReview"]
  | .noResponse => [.words "the admission function returned no response"]
  | .marshalFailed => [.words "marshalling the review response failed"]

def name : Message → String
  | .ingressDenied => "INGRESS_DENIED"
  | .namespaceWhitelisted => "NAMESPACE_WHITELISTED"
  | .publicLoadBalancer => "PUBLIC_LOAD_BALANCER"
  | .unsupportedProvider => "UNSUPPORTED_PROVIDER"
  | .podsMissingAnnotations => "PODS_MISSING_ANNOTATIONS"
  | .nilPredicate => "NIL_PREDICATE"
  | .unsupportedKind => "UNSUPPORTED_KIND"
  | .notAPod => "NOT_A_POD"
  | .noBody => "NO_BODY"
  | .readFailed => "READ_FAILED"
  | .bodyTooLarge => "BODY_TOO_LARGE"
  | .decodeFailed => "DECODE_FAILED"
  | .invalidReview => "INVALID_REVIEW"
  | .noResponse => "NO_RESPONSE"
  | .marshalFailed => "MARSHAL_FAILED"

def all : List Message :=
  [.ingressDenied, .namespaceWhitelisted, .publicLoadBalancer, .unsupportedProvider, .podsMissingAnnotations,
    .nilPredicate, .unsupportedKind, .notAPod, .noBody, .readFailed, .bodyTooLarge, .decodeFailed,
    .invalidReview, .noResponse, .marshalFailed]

def named? (name : String) : Option Message := all.find? fun message => message.name == name

def fillPieces (values : List (String × String)) : List Piece → Except String String
  | [] => .ok ""
  | .words text :: rest => (fillPieces values rest).map (text ++ ·)
  | .slot name :: rest =>
    match values.lookup name with
    | none => .error name
    | some text => (fillPieces values rest).map (text ++ ·)

-- Fails with the name of the first slot that has no value.
def fill (message : Message) (values : List (String × String)) : Except String String :=
  fillPieces values message.pieces

-- The wording with one value in every slot.
def withValue (message : Message) (value : String) : String :=
  String.join (message.pieces.map fun
    | .words text => text
    | .slot _ => value)

-- The wording of a message without slots.
def text (message : Message) : String := message.withValue ""

end Message
end Gatehouse
