import Gatehouse.Proofs.Endpoint.Course

/- Requests in a sequence, and their answers. An answer is a review, but where the encoding of the error review failed:
   then it is a failure of the server without a body. -/
namespace Gatehouse.Endpoint

-- The encodings that are still going to fail after these requests.
def remaining (endpoint : Endpoint) (failures : Nat) (deliveries : List Delivery) : Nat :=
  deliveries.foldl (fun left delivery => (endpoint.handle left delivery).1) failures

theorem handle_all_cons (endpoint : Endpoint) (failures : Nat) (delivery : Delivery) (rest : List Delivery) :
    endpoint.handleAll failures (delivery :: rest) = (endpoint.handle failures delivery).2 ::
      endpoint.handleAll (endpoint.handle failures delivery).1 rest := rfl

theorem handle_all_length (endpoint : Endpoint) (failures : Nat) (deliveries : List Delivery) :
    (endpoint.handleAll failures deliveries).length = deliveries.length := by
  induction deliveries generalizing failures with
  | nil => rfl
  | cons delivery rest ih => simp [handleAll, ih]

theorem handle_all_append (endpoint : Endpoint) (failures : Nat) (before after : List Delivery) :
    endpoint.handleAll failures (before ++ after) =
      endpoint.handleAll failures before ++ endpoint.handleAll (endpoint.remaining failures before) after := by
  induction before generalizing failures with
  | nil => rfl
  | cons delivery rest ih => simp [handleAll, ih, remaining]

/- One answer -/

theorem closing_failed (failures : Nat) (review : Review) :
    (closing failures review).2 = .failed ↔ ∃ reason, (encode failures review).2 = .error reason := by
  cases failures <;> simp [closing, encode]

theorem close_failed (course : Course) (failures : Nat) : (course.close failures).2 = .failed ↔
    ∃ left review reason, course.errorReview? failures = some (left, review) ∧
      (encode left review).2 = .error reason := by
  have last (left : Nat) (review : Review) : (closing left review).2 = .failed ↔
      ∃ rest other reason, some (left, review) = some (rest, other) ∧ (encode rest other).2 = .error reason := by
    rw [closing_failed]
    constructor
    · rintro ⟨reason, lost⟩
      exact ⟨left, review, reason, rfl, lost⟩
    · rintro ⟨rest, other, reason, same, lost⟩
      cases same
      exact ⟨reason, lost⟩
  cases course with
  | refused origin failure => exact last failures (errorReview origin failure)
  | answered origin review =>
    cases failures with
    | zero => simp [Course.close, Course.errorReview?, closing]
    | succ left => exact last left (errorReview origin unencodable)

theorem closing_review (failures : Nat) (review : Review) :
    (closing failures review).2 = .failed ∨ (closing failures review).2 = .review (Codec.encode .review review) := by
  cases failures with
  | zero => exact .inr rfl
  | succ left => exact .inl rfl

-- A review that is ready to be an answer.
def Answering (review : Review) : Prop :=
  review.kind = Review.title ∧ review.request = none ∧ ∃ response, review.response = some response

theorem answer_with_answering (apiVersion : ApiVersion) (response : Response) :
    Answering (answerWith apiVersion response) := ⟨rfl, rfl, response, rfl⟩

theorem close_review (endpoint : Endpoint) (failures : Nat) (delivery : Delivery) :
    ((endpoint.course delivery).close failures).2 = .failed ∨ ∃ review, Answering review ∧
      ((endpoint.course delivery).close failures).2 = .review (Codec.encode .review review) := by
  cases course : endpoint.course delivery with
  | refused origin failure =>
    exact (closing_review failures _).imp_right fun same => ⟨_, answer_with_answering _ _, same⟩
  | answered origin review =>
    obtain ⟨response, rfl, _⟩ := course_answers endpoint delivery origin review course
    cases failures with
    | zero => exact .inr ⟨_, answer_with_answering _ _, rfl⟩
    | succ left => exact (closing_review left _).imp_right fun same => ⟨_, answer_with_answering _ _, same⟩

theorem close_zero (course : Course) : (course.close 0).1 = 0 ∧ (course.close 0).2 ≠ .failed := by
  cases course <;> simp [Course.close, closing]

/- Answers as they are sent -/

-- The text of a review of its kind, with a response.
def IsReviewText (body : String) : Prop :=
  ∃ members content, body = (Json.object members).text Json.compact ∧
    lastOf members "kind" = some (.string "AdmissionReview") ∧ lastOf members "response" = some (.object content)

theorem answering_text (review : Review) (answering : Answering review) :
    IsReviewText (Codec.encode .review review) := by
  obtain ⟨apiVersion, kind, request, response⟩ := review
  obtain ⟨rfl, rfl, content, rfl⟩ := answering
  exact ⟨_, _, rfl, rfl, rfl⟩

theorem sent_failed (answer : Answer) : Service.answerOf answer = ⟨500, none, [], none, ""⟩ ↔ answer = .failed := by
  cases answer <;> simp [Service.answerOf, Http.Answer.broken, Http.Answer.empty]

theorem answer_at (endpoint : Endpoint) (failures : Nat) (before : List Delivery) (delivery : Delivery)
    (after : List Delivery) : (endpoint.handleAll failures (before ++ delivery :: after))[before.length]? =
      some (endpoint.handle (endpoint.remaining failures before) delivery).2 := by
  have place := handle_all_length endpoint failures before
  rw [handle_all_append, handle_all_cons, List.getElem?_append_right (Nat.le_of_eq place), place, Nat.sub_self]
  rfl

end Gatehouse.Endpoint
