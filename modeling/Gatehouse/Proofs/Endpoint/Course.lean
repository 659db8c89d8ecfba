import Gatehouse.Proofs.Endpoint.Body
import Gatehouse.Proofs.Journal
import Gatehouse.Service.Endpoints

/- The course of a request at an endpoint. Until something is to be encoded it does not depend on the encodings that
   fail; it comes to a review that answers the request or to a failure that is to be answered. -/
namespace Gatehouse.Endpoint

inductive Course where
  | answered (origin : Origin) (review : Review)
  | refused (origin : Origin) (failure : Classified)

def originOf (review : Review) (request : Request) : Origin := ⟨review.apiVersion, request.uid⟩

def course (endpoint : Endpoint) (delivery : Delivery) : Course :=
  match (endpoint.receive delivery).outcome with
  | .error failure => .refused Origin.unknown failure
  | .ok (review, request) =>
    match (endpoint.decide review request).outcome with
    | .error failure => .refused (originOf review request) failure
    | .ok outgoing => .answered (originOf review request) outgoing

-- The review that answers a failure.
def errorReview (origin : Origin) (failure : Classified) : Review :=
  answerWith origin.apiVersion ⟨origin.uid, failure.allowed, some ⟨failure.message, none, none⟩, none, none, none⟩

-- The failure of a request whose answer could not be encoded.
def unencodable : Classified := ⟨false, Message.text .marshalFailed, "cannot encode"⟩

-- The error review that a request comes to, with the failures left when it is encoded.
def Course.errorReview? (failures : Nat) : Course → Option (Nat × Review)
  | .refused origin failure => some (failures, errorReview origin failure)
  | .answered origin _ =>
    match failures with
    | 0 => none
    | left + 1 => some (left, errorReview origin unencodable)

-- The last encoding for a request.
def closing (failures : Nat) (review : Review) : Nat × Answer :=
  match failures with
  | 0 => (0, .review (Codec.encode .review review))
  | left + 1 => (left, .failed)

def Course.close (failures : Nat) : Course → Nat × Answer
  | .refused origin failure => closing failures (errorReview origin failure)
  | .answered origin review =>
    match failures with
    | 0 => closing 0 review
    | left + 1 => closing left (errorReview origin unencodable)

theorem answer_failure_closes (failures : Nat) (origin : Origin) (failure : Classified) :
    ((answerFailure failures origin failure).1, (answerFailure failures origin failure).2.2) =
      closing failures (errorReview origin failure) := by
  cases failures <;> rfl

theorem handle_unreceived (endpoint : Endpoint) (failures : Nat) (delivery : Delivery) (failure : Classified)
    (received : (endpoint.receive delivery).outcome = .error failure) : endpoint.handle failures delivery =
      ((answerFailure failures Origin.unknown failure).1,
        (endpoint.receive delivery).journal ++ (answerFailure failures Origin.unknown failure).2.1,
        (answerFailure failures Origin.unknown failure).2.2) := by
  simp only [handle, received]

theorem handle_undecided (endpoint : Endpoint) (failures : Nat) (delivery : Delivery) (review : Review)
    (request : Request) (failure : Classified) (received : (endpoint.receive delivery).outcome = .ok (review, request))
    (decided : (endpoint.decide review request).outcome = .error failure) : endpoint.handle failures delivery =
      ((answerFailure failures (originOf review request) failure).1,
        (endpoint.receive delivery).journal ++ (endpoint.decide review request).journal ++
          (answerFailure failures (originOf review request) failure).2.1,
        (answerFailure failures (originOf review request) failure).2.2) := by
  simp only [handle, received, decided]
  rfl

theorem handle_encoded (endpoint : Endpoint) (delivery : Delivery) (review : Review) (request : Request)
    (outgoing : Review) (received : (endpoint.receive delivery).outcome = .ok (review, request))
    (decided : (endpoint.decide review request).outcome = .ok outgoing) : endpoint.handle 0 delivery =
      (0, (endpoint.receive delivery).journal ++ (endpoint.decide review request).journal,
        .review (Codec.encode .review outgoing)) := by
  simp only [handle, received, decided, encode]

theorem handle_unencoded (endpoint : Endpoint) (left : Nat) (delivery : Delivery) (review : Review)
    (request : Request) (outgoing : Review) (received : (endpoint.receive delivery).outcome = .ok (review, request))
    (decided : (endpoint.decide review request).outcome = .ok outgoing) : endpoint.handle (left + 1) delivery =
      ((answerFailure left (originOf review request) unencodable).1,
        (endpoint.receive delivery).journal ++ (endpoint.decide review request).journal ++
          (answerFailure left (originOf review request) unencodable).2.1,
        (answerFailure left (originOf review request) unencodable).2.2) := by
  simp only [handle, received, decided, encode]
  rfl

theorem handle_closes (endpoint : Endpoint) (failures : Nat) (delivery : Delivery) :
    ((endpoint.handle failures delivery).1, (endpoint.handle failures delivery).2.2) =
      (endpoint.course delivery).close failures := by
  cases received : (endpoint.receive delivery).outcome with
  | error failure =>
    rw [handle_unreceived endpoint failures delivery failure received, course, received]
    exact answer_failure_closes failures Origin.unknown failure
  | ok pair =>
    obtain ⟨review, request⟩ := pair
    cases decided : (endpoint.decide review request).outcome with
    | error failure =>
      rw [handle_undecided endpoint failures delivery review request failure received decided]
      simp only [course, received, decided]
      exact answer_failure_closes failures (originOf review request) failure
    | ok outgoing =>
      cases failures with
      | zero =>
        rw [handle_encoded endpoint delivery review request outgoing received decided]
        simp only [course, received, decided]
        rfl
      | succ left =>
        rw [handle_unencoded endpoint left delivery review request outgoing received decided]
        simp only [course, received, decided]
        exact answer_failure_closes left (originOf review request) unencodable

theorem handle_failures (endpoint : Endpoint) (failures : Nat) (delivery : Delivery) :
    (endpoint.handle failures delivery).1 = ((endpoint.course delivery).close failures).1 :=
  congrArg Prod.fst (handle_closes endpoint failures delivery)

theorem handle_answer (endpoint : Endpoint) (failures : Nat) (delivery : Delivery) :
    (endpoint.handle failures delivery).2.2 = ((endpoint.course delivery).close failures).2 :=
  congrArg Prod.snd (handle_closes endpoint failures delivery)

/- Every review of a course is one that answers. -/

theorem course_answers (endpoint : Endpoint) (delivery : Delivery) (origin : Origin) (review : Review)
    (answered : endpoint.course delivery = .answered origin review) :
    ∃ response, review = answerWith origin.apiVersion response ∧ response.uid = origin.uid := by
  unfold course at answered
  split at answered
  · cases answered
  · split at answered
    · cases answered
    · rename_i outgoing decided
      cases answered
      obtain ⟨verdict, _, later⟩ := (Told.bind_ok _ _ _).mp decided
      obtain ⟨response, _, same⟩ := (Told.bind_ok _ _ _).mp later
      cases same
      exact ⟨_, rfl, rfl⟩

end Gatehouse.Endpoint
