import Gatehouse.Proofs.Endpoint.Alarms

/- What a denial says for the refusal behind it. A refusal says its own text; a failure from outside that has none is
   told by its class. A refusal of this library without a text leaves the denial without a reason. -/
namespace Gatehouse.Endpoint

/-- The message of a denial for a refusal. -/
structure Explains (refusal : Refusal) (message : String) : Prop where
  worded : refusal.message ≠ "" → message = refusal.message
  outside : ∀ failure, refusal = .foreign failure → refusal.message = "" → message = refusal.name
  inside : (∀ failure, refusal ≠ .foreign failure) → refusal.message = "" → message = ""

-- What a denial says for a failure from outside.
def foreignReason (failure : Foreign) : String := if failure.message = "" then failure.name else failure.message

theorem foreign_explained (failure : Foreign) : Explains (.foreign failure) (foreignReason failure) where
  worded told := if_neg told
  outside _ _ silent := if_pos silent
  inside inside _ := absurd rfl (inside failure)

theorem inside_explained (refusal : Refusal) (inside : ∀ failure, refusal ≠ .foreign failure) :
    Explains refusal refusal.message where
  worded _ := rfl
  outside failure same := absurd same (inside failure)
  inside _ silent := silent

theorem classify_foreign (request : Request) (failure : Foreign) :
    (classify request (.foreign failure)).outcome = .error ⟨false, foreignReason failure, failure.shown⟩ := by
  simp only [classify, Told.tell, bind, Told.andThen, Told.fail_outcome, foreignReason]
  split
  · rename_i silent
    rw [if_pos silent]
  · rename_i told
    rw [if_neg told]

theorem classify_explained (request : Request) (refusal : Refusal) (plain : ∀ failure, refusal ≠ .classified failure) :
    ∃ message debug, (classify request refusal).outcome = .error ⟨false, message, debug⟩ ∧
      Explains refusal message := by
  cases refusal with
  | classified failure => exact absurd rfl (plain failure)
  | foreign failure => exact ⟨_, _, classify_foreign request failure, foreign_explained failure⟩
  | _ =>
    refine ⟨_, _, rfl, inside_explained _ fun failure same => ?_⟩
    cases same

theorem refused_course (endpoint : Endpoint) (delivery : Delivery) (review : Review) (request : Request)
    (refusal : Refusal) (failure : Classified) (received : (endpoint.receive delivery).outcome = .ok (review, request))
    (refused : (endpoint.judge review).outcome = .error refusal)
    (classified : (classify request refusal).outcome = .error failure) :
    endpoint.course delivery = .refused (originOf review request) failure := by
  have asked : (endpoint.ask review request).outcome = .error failure := by simp only [ask, refused, classified]
  have decided : (endpoint.decide review request).outcome = .error failure :=
    (Told.bind_error _ _ _).mpr (.inl asked)
  simp only [course, received, decided]

-- A denial lacks a reason for want of any text, and of a class from outside.
theorem explained_silent (refusal : Refusal) (message : String) (explained : Explains refusal message) :
    message = "" ↔ refusal.message = "" ∧ ((∃ failure, refusal = .foreign failure) → refusal.name = "") := by
  by_cases silent : refusal.message = ""
  · by_cases foreign : ∃ failure, refusal = .foreign failure
    · obtain ⟨failure, same⟩ := foreign
      rw [explained.outside failure same silent]
      exact ⟨fun unnamed => ⟨silent, fun _ => unnamed⟩, fun both => both.2 ⟨failure, same⟩⟩
    · have inside (failure : Foreign) : refusal ≠ .foreign failure := fun same => foreign ⟨failure, same⟩
      exact ⟨fun _ => ⟨silent, fun present => absurd present foreign⟩, fun _ => explained.inside inside silent⟩
  · rw [explained.worded silent]
    exact ⟨fun empty => absurd empty silent, fun both => both.1⟩

theorem refusals_explained (endpoint : Endpoint) (failures : Nat) (delivery : Delivery) (review : Review)
    (request : Request) (refusal : Refusal) (received : (endpoint.receive delivery).outcome = .ok (review, request))
    (refused : (endpoint.judge review).outcome = .error refusal) (plain : ∀ failure, refusal ≠ .classified failure) :
    ∃ message, Explains refusal message ∧
      (message = "" ↔ refusal.message = "" ∧ ((∃ failure, refusal = .foreign failure) → refusal.name = "")) ∧
      (endpoint.handle failures delivery).2.2 = (closing failures (answerWith review.apiVersion
        ⟨request.uid, false, some ⟨message, none, none⟩, none, none, none⟩)).2 := by
  obtain ⟨message, debug, classified, explained⟩ := classify_explained request refusal plain
  have course := refused_course endpoint delivery review request refusal _ received refused classified
  refine ⟨message, explained, explained_silent refusal message explained, ?_⟩
  rw [handle_answer, course]
  rfl

/- An endpoint that refuses everything for one reason. -/

def turningDown (refusal : Refusal) : Endpoint := ⟨fun _ => Told.fail refusal, "refuse", askingBody.size⟩

theorem turning_down_plain (refusal : Refusal) (unclassified : refusal.name ≠ "AdmissionError") (failure : Classified) :
    refusal ≠ .classified failure := by
  rintro rfl
  exact unclassified rfl

theorem turning_down_receives (refusal : Refusal) :
    ((turningDown refusal).receive ⟨[askingBody], false⟩).outcome = .ok (askingReview, askingRequest) := by
  have whole : Received (turningDown refusal) ⟨[askingBody], false⟩ askingReview askingRequest :=
    ⟨asking_received.stayed, asking_received.filled, asking_received.within, asking_received.decoded,
      asking_received.asks⟩
  exact (receive_received _ _ _ _).mpr whole

def keyless : Foreign := ⟨"KeyError", none, true⟩

-- A missing key that is not named is told by its class.
theorem keyless_explained : ∃ message, message = "KeyError" ∧
    ((turningDown (.foreign keyless)).receive ⟨[askingBody], false⟩).outcome = .ok (askingReview, askingRequest) ∧
    ((turningDown (.foreign keyless)).handle 0 ⟨[askingBody], false⟩).2.2 = .review (Codec.encode .review
      (answerWith .v1 ⟨"a1", false, some ⟨message, none, none⟩, none, none, none⟩)) := by
  have received := turning_down_receives (.foreign keyless)
  obtain ⟨message, explained, _, answered⟩ := refusals_explained (turningDown (.foreign keyless)) 0
    ⟨[askingBody], false⟩ askingReview askingRequest (.foreign keyless) received rfl (turning_down_plain _ (by decide))
  exact ⟨message, explained.outside keyless rfl rfl, received, answered⟩

-- A violation without a text is denied without a reason, although it has a class.
theorem bare_violation_unexplained : ¬ ∀ (endpoint : Endpoint) (delivery : Delivery) (review : Review)
    (request : Request) (refusal : Refusal), (endpoint.receive delivery).outcome = .ok (review, request) →
    (endpoint.judge review).outcome = .error refusal → (∀ failure, refusal ≠ .classified failure) →
    ∃ message, message = (if refusal.message = "" then refusal.name else refusal.message) ∧ message ≠ "" ∧
      (endpoint.course delivery).errorReview? 0 = some (0, answerWith review.apiVersion
        ⟨request.uid, false, some ⟨message, none, none⟩, none, none, none⟩) := by
  intro always
  have received := turning_down_receives (.violation (.told ""))
  obtain ⟨message, _, told, denied⟩ := always (turningDown (.violation (.told ""))) ⟨[askingBody], false⟩ askingReview
    askingRequest (.violation (.told "")) received rfl (turning_down_plain _ (by decide))
  rw [refused_course _ _ _ _ _ _ received rfl rfl] at denied
  cases denied
  exact told rfl

end Gatehouse.Endpoint
