import Gatehouse.Endpoint.Open
import Gatehouse.Proofs.Endpoint.Answers
import Gatehouse.Proofs.Endpoint.FailClosed

/- Every request of a sequence is answered once, whatever its decision function raises or gives, but where no answer can
   be built for it: a failure that says with something other than a truth value whether it allows, and a response that
   does not take the mark of its request, leave the endpoint in place of an answer. -/
namespace Gatehouse.OpenEndpoint

open Endpoint (closing errorReview unencodable originOf)

/-- What a request comes to, whichever encodings fail. -/
inductive Course where
  | kept (course : Endpoint.Course)
  | unwritable (origin : Origin) (reason : String)
  | escaped (escape : Escape)

def course (endpoint : OpenEndpoint) (delivery : Delivery) : Course :=
  match (endpoint.receive delivery).outcome with
  | .error failure => .kept (.refused Endpoint.Origin.unknown failure)
  | .ok (review, request) =>
    match Settlement.of (endpoint.judge review).outcome with
    | .kept outcome => .kept ((endpoint.keeping fun _ => ⟨(endpoint.judge review).journal, outcome⟩).course delivery)
    | .unwritable reason => .unwritable (originOf review request) reason
    | .unclear _ report => .escaped (.invalid report)
    | .sealed failure => .escaped (.foreign failure)

-- The failure of a request whose answer cannot be written.
def unwritten (reason : String) : Classified := ⟨false, Message.text .marshalFailed, reason⟩

-- The error review that a request comes to, with the failures left when it is encoded.
def Course.errorReview? (failures : Nat) : Course → Option (Nat × Review)
  | .kept course => course.errorReview? failures
  | .unwritable origin reason =>
    some ((failEncoding failures reason).1, errorReview origin (unwritten (failEncoding failures reason).2))
  | .escaped _ => none

def Course.close (failures : Nat) : Course → Nat × Except Escape Answer
  | .kept course => ((course.close failures).1, .ok (course.close failures).2)
  | .unwritable origin reason =>
    let closed := closing (failEncoding failures reason).1
      (errorReview origin (unwritten (failEncoding failures reason).2))
    (closed.1, .ok closed.2)
  | .escaped escape => (failures, .error escape)

/- One request -/

section

variable (endpoint : OpenEndpoint) (failures : Nat) (delivery : Delivery)

theorem handle_closes : ((endpoint.handle failures delivery).1, (endpoint.handle failures delivery).2.2) =
    (endpoint.course delivery).close failures := by
  cases received : (endpoint.receive delivery).outcome with
  | error failure =>
    have closes := Endpoint.answer_failure_closes failures Endpoint.Origin.unknown failure
    simp only [handle, course, received, Course.close, Endpoint.Course.close, ← closes]
  | ok pair =>
    obtain ⟨review, request⟩ := pair
    cases settled : Settlement.of (endpoint.judge review).outcome with
    | kept outcome =>
      have closes := Endpoint.handle_closes
        (endpoint.keeping fun _ => ⟨(endpoint.judge review).journal, outcome⟩) failures delivery
      simp only [handle, course, received, settled, settle, Course.close, ← closes]
    | unwritable reason =>
      have closes := Endpoint.answer_failure_closes (failEncoding failures reason).1 (originOf review request)
        (unwritten (failEncoding failures reason).2)
      simp only [handle, course, received, settled, settle, Course.close, ← closes]
      rfl
    | unclear failure report => simp only [handle, course, received, settled, settle, Course.close]
    | sealed failure => simp only [handle, course, received, settled, settle, Course.close]

theorem handle_failures : (endpoint.handle failures delivery).1 = ((endpoint.course delivery).close failures).1 :=
  congrArg Prod.fst (handle_closes endpoint failures delivery)

theorem handle_result : (endpoint.handle failures delivery).2.2 = ((endpoint.course delivery).close failures).2 :=
  congrArg Prod.snd (handle_closes endpoint failures delivery)

/-- What leaves an endpoint in place of an answer to a request that was received. -/
inductive Escapes : Escape → Prop where
  | unclear (review : Review) (request : Request) (failure : Declared) (fault : Fault)
    (received : (endpoint.receive delivery).outcome = .ok (review, request))
    (raised : (endpoint.judge review).outcome = .error (.declared failure))
    (unread : Format.readBoolean failure.allowed = .error fault) :
    Escapes (.invalid ⟨"AdmissionResponse", [⟨[.key "allowed"], fault⟩]⟩)
  | sealed (review : Review) (request : Request) (failure : Foreign)
    (received : (endpoint.receive delivery).outcome = .ok (review, request))
    (given : (endpoint.judge review).outcome = .ok (.sealed failure)) : Escapes (.foreign failure)

theorem settled_unclear (outcome : Except Thrown Yield) (failure : Declared) (report : Report) :
    Settlement.of outcome = .unclear failure report ↔ outcome = .error (.declared failure) ∧
      ∃ fault, Format.readBoolean failure.allowed = .error fault ∧
        report = ⟨"AdmissionResponse", [⟨[.key "allowed"], fault⟩]⟩ := by
  cases outcome with
  | ok yield => cases yield <;> simp [Settlement.of]
  | error thrown =>
    cases thrown with
    | refusal refusal => simp [Settlement.of]
    | declared found =>
      cases read : Format.readBoolean found.allowed with
      | ok allowed =>
        simp only [Settlement.of, Declared.classified, read, reduceCtorEq, Except.error.injEq, Thrown.declared.injEq,
          false_iff]
        rintro ⟨rfl, fault, unread, _⟩
        exact nomatch read.symm.trans unread
      | error fault =>
        simp only [Settlement.of, Declared.classified, read, Settlement.unclear.injEq, Except.error.injEq,
          Thrown.declared.injEq]
        constructor
        · rintro ⟨rfl, rfl⟩
          exact ⟨rfl, fault, read, rfl⟩
        · rintro ⟨rfl, other, unread, rfl⟩
          cases read.symm.trans unread
          exact ⟨rfl, rfl⟩

theorem settled_sealed (outcome : Except Thrown Yield) (failure : Foreign) :
    Settlement.of outcome = .sealed failure ↔ outcome = .ok (.sealed failure) := by
  cases outcome with
  | ok yield => cases yield <;> simp [Settlement.of]
  | error thrown =>
    cases thrown with
    | refusal refusal => simp [Settlement.of]
    | declared found => cases read : Format.readBoolean found.allowed <;> simp [Settlement.of, Declared.classified, read]

theorem course_escaped (escape : Escape) :
    endpoint.course delivery = .escaped escape ↔ Escapes endpoint delivery escape := by
  constructor
  · intro escaped
    cases received : (endpoint.receive delivery).outcome with
    | error failure => simp only [course, received, reduceCtorEq] at escaped
    | ok pair =>
      obtain ⟨review, request⟩ := pair
      simp only [course, received] at escaped
      split at escaped
      · cases escaped
      · cases escaped
      · rename_i failure report settled
        cases escaped
        obtain ⟨raised, fault, unread, rfl⟩ := (settled_unclear _ failure report).mp settled
        exact .unclear review request failure fault received raised unread
      · rename_i failure settled
        cases escaped
        exact .sealed review request failure received ((settled_sealed _ failure).mp settled)
  · intro escapes
    cases escapes with
    | unclear review request failure fault received raised unread =>
      have settled := (settled_unclear _ failure _).mpr ⟨raised, fault, unread, rfl⟩
      simp only [course, received, settled]
    | sealed review request failure received given =>
      have settled := (settled_sealed _ failure).mpr given
      simp only [course, received, settled]

theorem result_escapes (escape : Escape) :
    (endpoint.handle failures delivery).2.2 = .error escape ↔ Escapes endpoint delivery escape := by
  rw [handle_result, ← course_escaped]
  cases endpoint.course delivery <;> simp [Course.close]

end

/- One answer -/

-- The review that was to answer the request cannot be encoded, or its encoding is going to fail.
inductive Unsent (failures : Nat) : Course → Origin → Prop where
  | failing (origin : Origin) (review : Review) (failing : failures ≠ 0) :
    Unsent failures (.kept (.answered origin review)) origin
  | unwritable (origin : Origin) (reason : String) : Unsent failures (.unwritable origin reason) origin

/-- What is sent for a request that is answered when so many encodings are still going to fail. -/
structure Answered (endpoint : OpenEndpoint) (left : Nat) (delivery : Delivery) (sent : Http.Answer) : Prop where
  broken : sent = ⟨500, none, [], none, ""⟩ ↔ ∃ rest review reason,
    (endpoint.course delivery).errorReview? left = some (rest, review) ∧
      (Endpoint.encode rest review).2 = .error reason
  reviewed : sent = ⟨500, none, [], none, ""⟩ ∨ ∃ review response,
    sent = ⟨200, some "application/json", [], none, Codec.encode .review review⟩ ∧
      review.kind = "AdmissionReview" ∧ review.response = some response ∧ Endpoint.IsReviewText sent.body
  retried : ∀ origin, Unsent left (endpoint.course delivery) origin → ∃ denial,
    denial = ⟨origin.apiVersion, "AdmissionReview", none, some ⟨origin.uid, false,
      some ⟨"marshalling the review response failed", none, none⟩, none, none, none⟩⟩ ∧
    (endpoint.course delivery).errorReview? left = some (left - 1, denial) ∧
    (left ≤ 1 → sent = ⟨200, some "application/json", [], none, Codec.encode .review denial⟩)

theorem close_failed (course : Course) (failures : Nat) : (course.close failures).2 = .ok .failed ↔
    ∃ left review reason, course.errorReview? failures = some (left, review) ∧
      (Endpoint.encode left review).2 = .error reason := by
  cases course with
  | kept course =>
    rw [Course.close, Except.ok.injEq]
    exact Endpoint.close_failed course failures
  | unwritable origin reason =>
    simp only [Course.close, Course.errorReview?, Except.ok.injEq, Endpoint.closing_failed, Option.some.injEq,
      Prod.mk.injEq]
    constructor
    · rintro ⟨lost, failing⟩
      exact ⟨_, _, lost, ⟨rfl, rfl⟩, failing⟩
    · rintro ⟨_, _, lost, ⟨rfl, rfl⟩, failing⟩
      exact ⟨lost, failing⟩
  | escaped escape => simp [Course.close, Course.errorReview?]

section

variable (endpoint : OpenEndpoint) (failures : Nat) (delivery : Delivery)

-- A request that keeps to the types is that of an endpoint of the typed kind.
theorem course_kept (kept : Endpoint.Course) (same : endpoint.course delivery = .kept kept) :
    ∃ judge, kept = (endpoint.keeping judge).course delivery := by
  cases received : (endpoint.receive delivery).outcome with
  | error failure =>
    refine ⟨fun _ => pure .nothing, ?_⟩
    have unreceived : ((endpoint.keeping fun _ => pure .nothing).receive delivery).outcome = .error failure := received
    simp only [course, received, Course.kept.injEq] at same
    rw [← same]
    simp only [Endpoint.course, unreceived]
  | ok pair =>
    simp only [course, received] at same
    split at same
    · cases same
      exact ⟨_, rfl⟩
    all_goals cases same

theorem close_review (answer : Answer) (answered : ((endpoint.course delivery).close failures).2 = .ok answer) :
    answer = .failed ∨ ∃ review, Endpoint.Answering review ∧ answer = .review (Codec.encode .review review) := by
  cases comes : endpoint.course delivery with
  | kept kept =>
    rw [comes] at answered
    obtain ⟨judge, rfl⟩ := course_kept endpoint delivery kept comes
    cases answered
    exact Endpoint.close_review (endpoint.keeping judge) failures delivery
  | unwritable origin reason =>
    rw [comes] at answered
    cases answered
    exact (Endpoint.closing_review _ _).imp_right fun same => ⟨_, Endpoint.answer_with_answering _ _, same⟩
  | escaped escape =>
    rw [comes] at answered
    cases answered

theorem unsent_retried (left : Nat) (course : Course) (origin : Origin) (unsent : Unsent left course origin) :
    ∃ failure, failure.allowed = false ∧ failure.message = "marshalling the review response failed" ∧
      course.errorReview? left = some (left - 1, errorReview origin failure) ∧
      (left ≤ 1 → (course.close left).2 = .ok (.review (Codec.encode .review (errorReview origin failure)))) := by
  cases unsent with
  | failing _ review failing =>
    obtain ⟨less, rfl⟩ := Nat.exists_eq_succ_of_ne_zero failing
    refine ⟨unencodable, rfl, rfl, rfl, fun last => ?_⟩
    obtain rfl : less = 0 := by omega
    rfl
  | unwritable _ reason =>
    cases left with
    | zero => exact ⟨unwritten reason, rfl, rfl, rfl, fun _ => rfl⟩
    | succ less =>
      refine ⟨unwritten "cannot encode", rfl, rfl, rfl, fun last => ?_⟩
      obtain rfl : less = 0 := by omega
      rfl

theorem handle_answered (answer : Answer) (answered : (endpoint.handle failures delivery).2.2 = .ok answer) :
    Answered endpoint failures delivery (Service.answerOf answer) := by
  rw [handle_result] at answered
  refine ⟨?_, ?_, ?_⟩
  · rw [Endpoint.sent_failed, ← close_failed, answered, Except.ok.injEq]
  · rw [Endpoint.sent_failed]
    refine (close_review endpoint failures delivery answer answered).imp_right ?_
    rintro ⟨review, answering, rfl⟩
    obtain ⟨response, present⟩ := answering.2.2
    exact ⟨review, response, rfl, answering.1, present, Endpoint.answering_text review answering⟩
  · intro origin unsent
    obtain ⟨⟨_, _, debug⟩, rfl, rfl, denied, last⟩ := unsent_retried failures _ origin unsent
    refine ⟨_, rfl, denied, fun few => ?_⟩
    cases answered.symm.trans (last few)
    rfl

theorem close_zero (course : Course) :
    (course.close 0).1 = 0 ∧ (course.close 0).2 ≠ .ok .failed := by
  cases course with
  | kept course => simpa [Course.close] using Endpoint.close_zero course
  | unwritable origin reason => simp [Course.close, failEncoding, closing]
  | escaped escape => simp [Course.close]

end

/- Requests in a sequence -/

section

variable (endpoint : OpenEndpoint) (failures : Nat)

-- The encodings that are still going to fail after these requests.
def remaining (deliveries : List Delivery) : Nat :=
  deliveries.foldl (fun left delivery => (endpoint.handle left delivery).1) failures

theorem handle_all_cons (delivery : Delivery) (rest : List Delivery) :
    endpoint.handleAll failures (delivery :: rest) = (endpoint.handle failures delivery).2 ::
      endpoint.handleAll (endpoint.handle failures delivery).1 rest := rfl

theorem handle_all_length (deliveries : List Delivery) :
    (endpoint.handleAll failures deliveries).length = deliveries.length := by
  induction deliveries generalizing failures with
  | nil => rfl
  | cons delivery rest ih => simp [handleAll, ih]

theorem handle_all_append (before after : List Delivery) : endpoint.handleAll failures (before ++ after) =
    endpoint.handleAll failures before ++ endpoint.handleAll (endpoint.remaining failures before) after := by
  induction before generalizing failures with
  | nil => rfl
  | cons delivery rest ih => simp [handleAll, ih, remaining]

theorem handle_all_zero (deliveries : List Delivery) :
    ∀ entry ∈ endpoint.handleAll 0 deliveries, entry.2 ≠ .ok .failed := by
  induction deliveries with
  | nil => simp [handleAll]
  | cons delivery rest ih =>
    have unfailing := (close_zero (endpoint.course delivery)).2
    rw [← handle_result] at unfailing
    have still : (endpoint.handle 0 delivery).1 = 0 := by rw [handle_failures, (close_zero _).1]
    intro entry member
    rw [handle_all_cons, still] at member
    rcases List.mem_cons.mp member with rfl | later
    · exact unfailing
    · exact ih entry later

theorem result_at (before : List Delivery) (delivery : Delivery) (after : List Delivery) :
    (endpoint.handleAll failures (before ++ delivery :: after))[before.length]? =
      some (endpoint.handle (endpoint.remaining failures before) delivery).2 := by
  have place := handle_all_length endpoint failures before
  rw [handle_all_append, List.getElem?_append_right (Nat.le_of_eq place), place, Nat.sub_self]
  rfl

/-- Every request comes to one result. It is no answer exactly where what escapes is known, and any answer is a review
    under status 200, but where its error review cannot be encoded; when no encoding fails any more every answer is. -/
theorem every_request_answered_or_escaped (before : List Delivery) (delivery : Delivery) (after : List Delivery) :
    (endpoint.handleAll failures (before ++ delivery :: after)).length = (before ++ delivery :: after).length ∧
    (∃ told result, (endpoint.handleAll failures (before ++ delivery :: after))[before.length]? = some (told, result) ∧
      (∀ escape, result = .error escape ↔ Escapes endpoint delivery escape) ∧
      ∀ answer, result = .ok answer →
        Answered endpoint (endpoint.remaining failures before) delivery (Service.answerOf answer)) ∧
    (endpoint.remaining failures before = 0 →
      ∀ entry ∈ (endpoint.handleAll failures (before ++ delivery :: after)).drop before.length,
        ∀ answer, entry.2 = .ok answer → (Service.answerOf answer).status = 200) := by
  refine ⟨handle_all_length _ _ _, ⟨_, _, result_at endpoint failures before delivery after, ?_, ?_⟩, ?_⟩
  · exact result_escapes endpoint _ delivery
  · exact handle_answered endpoint _ delivery
  · intro exhausted entry member answer answered
    rw [handle_all_append, exhausted, List.drop_left' (handle_all_length endpoint failures before)] at member
    have unfailing := handle_all_zero endpoint (delivery :: after) entry member
    rw [answered] at unfailing
    cases answer with
    | review body => rfl
    | failed => exact absurd rfl unfailing

end

/- Decisions whose requests are left without an answer. -/

def deciding (outcome : Except Thrown Yield) : OpenEndpoint := ⟨fun _ => ⟨[], outcome⟩, "decide", Endpoint.askingBody.size⟩

theorem deciding_receives (outcome : Except Thrown Yield) :
    ((deciding outcome).receive ⟨[Endpoint.askingBody], false⟩).outcome =
      .ok (Endpoint.askingReview, Endpoint.askingRequest) :=
  (Endpoint.receive_received (Endpoint.approving Endpoint.askingBody) _ _ _).mpr Endpoint.asking_received

def undecided : Declared := ⟨.null, "denied", ""⟩

def frozen : Foreign := ⟨"ValidationError", some "1 validation error for FrozenResponse", false⟩

-- A denial that does not say whether it allows, and a response that cannot be changed.
theorem denial_escapes :
    ((deciding (.error (.declared undecided))).handle 0 ⟨[Endpoint.askingBody], false⟩).2.2 =
      .error (.invalid ⟨"AdmissionResponse", [⟨[.key "allowed"], .notBoolean⟩]⟩) ∧
    ((deciding (.ok (.sealed frozen))).handle 0 ⟨[Endpoint.askingBody], false⟩).2.2 = .error (.foreign frozen) :=
  ⟨(result_escapes _ _ _ _).mpr (.unclear _ _ undecided _ (deciding_receives _) rfl rfl),
    (result_escapes _ _ _ _).mpr (.sealed _ _ frozen (deciding_receives _) rfl)⟩

end Gatehouse.OpenEndpoint

namespace Gatehouse.Endpoint

-- What a request comes to depends on the decision function only by the decision on its review.
theorem handle_alike (first second : Endpoint) (failures : Nat) (delivery : Delivery)
    (same : first.receive delivery = second.receive delivery)
    (alike : ∀ review request, (second.receive delivery).outcome = .ok (review, request) →
      first.decide review request = second.decide review request) :
    first.handle failures delivery = second.handle failures delivery := by
  rw [handle, handle, same]
  cases received : (second.receive delivery).outcome with
  | error failure => rfl
  | ok pair => simp only [alike pair.1 pair.2 received]

-- An endpoint whose decision function keeps to the types answers every request.
theorem opened_handle (endpoint : Endpoint) (failures : Nat) (delivery : Delivery) :
    endpoint.opened.handle failures delivery = ((endpoint.handle failures delivery).1,
      (endpoint.handle failures delivery).2.1, .ok (endpoint.handle failures delivery).2.2) := by
  have same : endpoint.opened.receive delivery = endpoint.receive delivery := rfl
  cases received : (endpoint.receive delivery).outcome with
  | error failure => simp only [OpenEndpoint.handle, same, handle, received]
  | ok pair =>
    obtain ⟨review, request⟩ := pair
    have settled : Settlement.of (endpoint.opened.judge review).outcome = .kept (endpoint.judge review).outcome := by
      simp only [opened]
      cases (endpoint.judge review).outcome <;> rfl
    have alike := handle_alike (endpoint.opened.keeping fun _ => endpoint.judge review) endpoint failures delivery rfl
      fun other asked found => by
        cases received.symm.trans found
        rfl
    simp only [OpenEndpoint.handle, same, received, settled, OpenEndpoint.settle, ← alike]
    rfl

end Gatehouse.Endpoint
