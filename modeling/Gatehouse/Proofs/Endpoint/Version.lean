import Gatehouse.Proofs.Endpoint.Answers
import Gatehouse.Proofs.Endpoint.FailClosed

/- The version of an answer. A request that asks is answered under the version that it came with, whatever becomes of
   it. A review that asks nothing is refused before it is known where it came from, and is answered under v1. -/
namespace Gatehouse.Endpoint

-- A body that came whole, within the limit, and is a review, whether or not it asks.
structure Accepted (endpoint : Endpoint) (delivery : Delivery) (review : Review) : Prop where
  stayed : delivery.disconnected = false
  within : (Body.joined delivery.chunks).size ≤ endpoint.limit
  decoded : (Codec.decodeReview (Body.joined delivery.chunks)).outcome = .ok review

-- If a review is sent, it and every review with its text have this version.
def AnsweredUnder (endpoint : Endpoint) (failures : Nat) (delivery : Delivery) (version : ApiVersion) : Prop :=
  (endpoint.handle failures delivery).2.2 = .failed ∨ ∃ sent,
    (endpoint.handle failures delivery).2.2 = .review (Codec.encode .review sent) ∧
      ∀ other, Codec.encode .review other = Codec.encode .review sent → other.apiVersion = version

def Course.origin : Course → Origin
  | .answered origin _ => origin
  | .refused origin _ => origin

theorem closing_version (failures : Nat) (review : Review) : (closing failures review).2 = .failed ∨ ∃ sent,
    (closing failures review).2 = .review (Codec.encode .review sent) ∧ sent.apiVersion = review.apiVersion :=
  (closing_review failures review).imp_right fun same => ⟨review, same, rfl⟩

theorem close_version (endpoint : Endpoint) (failures : Nat) (delivery : Delivery) :
    ((endpoint.course delivery).close failures).2 = .failed ∨ ∃ sent,
      ((endpoint.course delivery).close failures).2 = .review (Codec.encode .review sent) ∧
        sent.apiVersion = (endpoint.course delivery).origin.apiVersion := by
  cases came : endpoint.course delivery with
  | refused origin failure => exact closing_version failures (errorReview origin failure)
  | answered origin review =>
    obtain ⟨response, rfl, _⟩ := course_answers endpoint delivery origin review came
    cases failures with
    | zero => exact closing_version 0 (answerWith origin.apiVersion response)
    | succ left => exact closing_version left (errorReview origin unencodable)

theorem answered_under_origin (endpoint : Endpoint) (failures : Nat) (delivery : Delivery) :
    AnsweredUnder endpoint failures delivery (endpoint.course delivery).origin.apiVersion := by
  rw [AnsweredUnder, handle_answer]
  apply (close_version endpoint failures delivery).imp_right
  intro ⟨sent, text, version⟩
  refine ⟨sent, text, ?_⟩
  intro other same
  exact (Review.same_text_version other sent same).trans version

theorem course_origin_asked (endpoint : Endpoint) (delivery : Delivery) (review : Review) (request : Request)
    (received : (endpoint.receive delivery).outcome = .ok (review, request)) :
    (endpoint.course delivery).origin = originOf review request := by
  cases decided : (endpoint.decide review request).outcome with
  | error failure => simp only [course, received, decided, Course.origin]
  | ok outgoing => simp only [course, received, decided, Course.origin]

theorem course_origin_unasked (endpoint : Endpoint) (delivery : Delivery) (review : Review)
    (accepted : Accepted endpoint delivery review) (unasked : review.request = none) :
    (endpoint.course delivery).origin = Origin.unknown := by
  cases received : (endpoint.receive delivery).outcome with
  | error failure => simp only [course, received, Course.origin]
  | ok pair =>
    have whole := (receive_received endpoint delivery pair.1 pair.2).mp received
    -- what is received is the review that was decoded, and it would have to ask
    have same : review = pair.1 := Except.ok.inj (accepted.decoded.symm.trans whole.decoded)
    have asks := whole.asks
    rw [← same, unasked] at asks
    cases asks

theorem accepted_received (endpoint : Endpoint) (delivery : Delivery) (review : Review) (request : Request)
    (accepted : Accepted endpoint delivery review) (asks : review.request = some request) :
    Received endpoint delivery review request where
  stayed := accepted.stayed
  filled := by
    apply (Body.is_empty_false _).mp
    exact ((Codec.decode_shape_ok _ _ _ _).mp accepted.decoded).1
  within := accepted.within
  decoded := accepted.decoded
  asks := asks

theorem answered_version (endpoint : Endpoint) (failures : Nat) (delivery : Delivery) (review : Review)
    (accepted : Accepted endpoint delivery review) :
    (∀ request, review.request = some request → AnsweredUnder endpoint failures delivery review.apiVersion) ∧
    (review.request = none → AnsweredUnder endpoint failures delivery .v1) := by
  have answered := answered_under_origin endpoint failures delivery
  constructor
  · intro request asks
    have received := accepted_received endpoint delivery review request accepted asks
    rw [course_origin_asked _ _ _ _ ((receive_received _ _ _ _).mpr received)] at answered
    exact answered
  · intro unasked
    rw [course_origin_unasked endpoint delivery review accepted unasked] at answered
    exact answered

/- Two reviews of the older version: one that asks, and one that does not. -/

def betaSource (more : Members) : Json := .object (("apiVersion", .string "admission.k8s.io/v1beta1") :: more)

def betaBody (more : Members) : ByteArray := Utf8.encode ((betaSource more).text Json.compact)

theorem beta_accepted (more : Members) (review : Review) (fits : (betaSource more).Fits nestingRoom)
    (whole : (betaSource more).finite = true) (read : Review.shape.read (betaSource more) = .ok review) :
    Accepted (approving (betaBody more)) ⟨[betaBody more], false⟩ review := by
  have joined : Body.joined [betaBody more] = betaBody more := ByteArray.empty_append
  constructor
  · rfl
  · rw [joined]
    exact Nat.le_refl _
  · rw [joined]
    exact Codec.written_review_decodes (betaSource more) review fits whole read

theorem beta_asking_accepted : Accepted (approving (betaBody [("request", .object [])]))
    ⟨[betaBody [("request", .object [])]], false⟩
    ⟨.v1beta1, "AdmissionReview", some ⟨"", ⟨"", "", ""⟩, none, none, none, none, none, none, none, none, none, none⟩,
      none⟩ :=
  beta_accepted _ _ (by simp [betaSource, nestingRoom, Json.AllFit]) rfl rfl

theorem beta_unasking_accepted :
    Accepted (approving (betaBody [])) ⟨[betaBody []], false⟩ ⟨.v1beta1, "AdmissionReview", none, none⟩ :=
  beta_accepted _ _ (by simp [betaSource, nestingRoom, Json.AllFit]) rfl rfl

theorem asking_answered_under_beta :
    Accepted (approving (betaBody [("request", .object [])])) ⟨[betaBody [("request", .object [])]], false⟩
      ⟨.v1beta1, "AdmissionReview", some ⟨"", ⟨"", "", ""⟩, none, none, none, none, none, none, none, none, none, none⟩,
        none⟩ ∧
      AnsweredUnder (approving (betaBody [("request", .object [])])) 1 ⟨[betaBody [("request", .object [])]], false⟩
        .v1beta1 :=
  ⟨beta_asking_accepted, (answered_version _ 1 _ _ beta_asking_accepted).1 _ rfl⟩

theorem unasking_not_under_beta :
    Accepted (approving (betaBody [])) ⟨[betaBody []], false⟩ ⟨.v1beta1, "AdmissionReview", none, none⟩ ∧
      ¬ AnsweredUnder (approving (betaBody [])) 0 ⟨[betaBody []], false⟩ .v1beta1 := by
  refine ⟨beta_unasking_accepted, ?_⟩
  have unknown := course_origin_unasked _ _ _ beta_unasking_accepted rfl
  have sent := (close_zero ((approving (betaBody [])).course ⟨[betaBody []], false⟩)).2
  have first := answered_under_origin (approving (betaBody [])) 0 ⟨[betaBody []], false⟩
  rw [← handle_answer] at sent
  rw [unknown] at first
  obtain lost | ⟨left, leftText, v1⟩ := first
  · exact absurd lost sent
  · intro second
    obtain lost | ⟨right, rightText, beta⟩ := second
    · exact sent lost
    · rw [leftText] at rightText
      have same := Answer.review.inj rightText
      have version := (v1 left rfl).symm.trans (beta left same)
      cases version

end Gatehouse.Endpoint
