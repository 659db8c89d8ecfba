import Gatehouse.Json.Plain
import Gatehouse.Message
import Gatehouse.Schema.Issue

/- Why a review is refused, or why the webhook cannot work. Each cause has its wording; the causes of this library
   form one family, and failures from outside are told by their class and what they say. -/
namespace Gatehouse

inductive DecodeFailure where
  | empty (title : String)
  | invalid (report : Report)
  | told (text : String)
deriving DecidableEq

inductive Lack where
  | notFound
  | mismatch
deriving DecidableEq

inductive Violation where
  | noRequest
  | ingress (kind : String)
  | publicLoadBalancer (kind key expected : String)
  | missingAnnotations (lacks : List (String × Lack))
  | unsupportedKind (kind : String)
  | told (text : String)
deriving DecidableEq

inductive Misconfiguration where
  | unsupportedProvider (provider : String)
  | nilPredicate (key : String)
  | told (text : String)
deriving DecidableEq

-- A failure inside the endpoint that already says how it is to be answered.
structure Classified where
  allowed : Bool
  message : String
  debug : String
deriving DecidableEq

-- A failure from outside; `quotes` says whether its text is shown quoted, as for a missing key.
structure Foreign where
  name : String
  text : Option String
  quotes : Bool
deriving DecidableEq

inductive Refusal where
  | undecodable (failure : DecodeFailure)
  | violation (cause : Violation)
  | misconfigured (cause : Misconfiguration)
  | listener (text : String)
  | general (text : String)
  | classified (failure : Classified)
  | foreign (failure : Foreign)
deriving DecidableEq

def DecodeFailure.message : DecodeFailure → String
  | .empty title => "cannot decode an empty payload into " ++ title
  | .invalid report => "could not decode " ++ report.title ++ ": " ++ report.text
  | .told text => text

def Lack.message : Lack → String
  | .notFound => "key was not found"
  | .mismatch => "value did not match"

def lackDetails (lacks : List (String × Lack)) : String :=
  String.intercalate ", " (lacks.map fun (key, lack) => key ++ ": " ++ lack.message)

def Violation.message : Violation → String
  | .noRequest => Message.text .invalidReview
  | .ingress kind => Message.withValue .ingressDenied kind
  | .publicLoadBalancer kind key expected =>
    Message.withValue .publicLoadBalancer kind ++ ": missing or invalid annotations: " ++ key ++ "=" ++ expected
  | .missingAnnotations lacks => Message.text .podsMissingAnnotations ++ " " ++ lackDetails lacks
  | .unsupportedKind kind => Message.text .unsupportedKind ++ " " ++ kind
  | .told text => text

def Misconfiguration.message : Misconfiguration → String
  | .unsupportedProvider provider => Message.withValue .unsupportedProvider provider
  | .nilPredicate key => Message.withValue .nilPredicate key
  | .told text => text

def Classified.text (failure : Classified) : String :=
  "admission error: " ++ failure.message ++ " (allowed: " ++ (if failure.allowed then "true" else "false") ++ ")"

def Foreign.message (failure : Foreign) : String :=
  match failure.text with
  | none => ""
  | some text => if failure.quotes then Text.quoted text else text

-- The failure with its class, as the journal shows it.
def Foreign.shown (failure : Foreign) : String :=
  failure.name ++ "(" ++ (match failure.text with | none => "" | some text => Text.quoted text) ++ ")"

def Refusal.message : Refusal → String
  | .undecodable failure => failure.message
  | .violation cause => cause.message
  | .misconfigured cause => cause.message
  | .listener text => text
  | .general text => text
  | .classified failure => failure.text
  | .foreign failure => failure.message

/- Classes of refusals, each under a wider one. -/

def Refusal.family : Refusal → List String
  | .undecodable _ => ["DecodeError", "AdmissionControlException"]
  | .violation (.unsupportedKind _) => ["UnsupportedKindError", "PolicyViolation", "AdmissionControlException"]
  | .violation _ => ["PolicyViolation", "AdmissionControlException"]
  | .misconfigured (.unsupportedProvider _) =>
    ["UnsupportedProviderError", "ConfigurationError", "AdmissionControlException"]
  | .misconfigured (.nilPredicate _) => ["NilPredicateError", "ConfigurationError", "AdmissionControlException"]
  | .misconfigured (.told _) => ["ConfigurationError", "AdmissionControlException"]
  | .listener _ => ["ListenerError", "AdmissionControlException"]
  | .general _ => ["AdmissionControlException"]
  | .classified _ => ["AdmissionError", "AdmissionControlException"]
  | .foreign failure => failure.name :: (if failure.quotes then ["LookupError"] else [])

def Refusal.name (refusal : Refusal) : String := refusal.family.headD ""

def Foreign.valueError (text : String) : Foreign := ⟨"ValueError", some text, false⟩

def Foreign.runtimeError (text : String) : Foreign := ⟨"RuntimeError", some text, false⟩

def Foreign.missingKey (key : String) : Foreign := ⟨"KeyError", some key, true⟩

end Gatehouse
