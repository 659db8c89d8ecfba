import Gatehouse.Proofs.Endpoint.Answers
import Mathlib.Data.List.Forall2

/- A body is judged by all of its bytes, in whatever pieces they come. It is taken when there is something and no more
   than the limit; too much is refused even where the client leaves afterwards, and nothing is ever taken from a client
   that left. So requests with the same bytes get the same answers. -/
namespace Gatehouse.Body

/-- What reading comes to, by the bytes that came. -/
inductive Reading (limit : Nat) (delivery : Delivery) : Except Classified ByteArray → Prop where
  | overgrown (size : Nat) (large : limit < (joined delivery.chunks).size) :
      Reading limit delivery (.error (tooLarge limit size))
  | left (within : (joined delivery.chunks).size ≤ limit) (gone : delivery.disconnected = true) :
      Reading limit delivery (.error disconnected)
  | nothing (stayed : delivery.disconnected = false) (empty : (joined delivery.chunks).size = 0) :
      Reading limit delivery (.error missing)
  | whole (stayed : delivery.disconnected = false) (something : 0 < (joined delivery.chunks).size)
      (within : (joined delivery.chunks).size ≤ limit) : Reading limit delivery (.ok (joined delivery.chunks))

theorem gather_cases (limit : Nat) (body : ByteArray) (chunks : List ByteArray) (within : body.size ≤ limit) :
    (gather limit body chunks = .ok (joinedTo body chunks) ∧ (joinedTo body chunks).size ≤ limit) ∨
      ∃ size, gather limit body chunks = .error (tooLarge limit size) ∧ limit < (joinedTo body chunks).size := by
  induction chunks generalizing body with
  | nil => exact .inl ⟨rfl, within⟩
  | cons chunk rest ih =>
    rw [gather]
    by_cases large : limit < (body ++ chunk).size
    · rw [if_pos large]
      exact .inr ⟨_, rfl, Nat.lt_of_lt_of_le large (joined_grows (body ++ chunk) rest)⟩
    · rw [if_neg large]
      exact ih (body ++ chunk) (Nat.le_of_not_lt large)

theorem read_reading (limit : Nat) (delivery : Delivery) : Reading limit delivery (read limit delivery) := by
  rw [read]
  rcases gather_cases limit ByteArray.empty delivery.chunks (Nat.zero_le _) with
    ⟨gathered, within⟩ | ⟨size, gathered, large⟩
  · rw [gathered]
    cases gone : delivery.disconnected with
    | true => exact .left within gone
    | false =>
      by_cases something : 0 < (joinedTo ByteArray.empty delivery.chunks).size
      · simp only [(is_empty_false _).mpr something, Bool.false_eq_true, if_false]
        exact .whole gone something within
      · have empty : (joinedTo ByteArray.empty delivery.chunks).isEmpty = true := by
          rw [← Bool.not_eq_false, is_empty_false]
          exact something
        simp only [empty, Bool.false_eq_true, if_false, if_true]
        exact .nothing gone (Nat.eq_zero_of_not_pos something)
  · rw [gathered]
    exact .overgrown size large

/- Failures by their wordings -/

def Refused (wording : String) (result : Except Classified ByteArray) : Prop :=
  ∃ debug, result = .error ⟨false, wording, debug⟩

theorem too_large_worded (shown : String) : Message.withValue .bodyTooLarge shown =
    "the request body exceeds the " ++ shown ++ " byte limit" := by
  simp only [Message.withValue, Message.pieces, List.map, String.join, List.foldl, String.empty_append]

theorem too_large_apart (shown : String) :
    Message.withValue .bodyTooLarge shown ≠ "could not read the request body" ∧
      Message.withValue .bodyTooLarge shown ≠ "no request body was received" := by
  have first : (Message.withValue .bodyTooLarge shown).toList.head? = some 't' := by
    rw [too_large_worded, String.toList_append, String.toList_append]
    rfl
  constructor
  all_goals
    intro same
    rw [same] at first
    cases first

theorem refused_iff (wording : String) (failure : Classified) (denied : failure.allowed = false) :
    Refused wording (.error failure) ↔ failure.message = wording := by
  obtain ⟨allowed, message, debug⟩ := failure
  cases denied
  constructor
  · rintro ⟨other, same⟩
    cases same
    rfl
  · rintro rfl
    exact ⟨debug, rfl⟩

theorem read_refused (limit : Nat) (delivery : Delivery) (wording : String) :
    Refused wording (read limit delivery) ↔
      (limit < (joined delivery.chunks).size ∧ Message.withValue .bodyTooLarge (toString limit) = wording) ∨
      ((joined delivery.chunks).size ≤ limit ∧ delivery.disconnected = true ∧
        "could not read the request body" = wording) ∨
      ((joined delivery.chunks).size = 0 ∧ delivery.disconnected = false ∧
        "no request body was received" = wording) := by
  have refused := read_reading limit delivery
  generalize read limit delivery = result at refused ⊢
  cases refused with
  | overgrown size large =>
    have within : ¬ (joined delivery.chunks).size ≤ limit := Nat.not_le.mpr large
    have something : (joined delivery.chunks).size ≠ 0 := by omega
    simp only [refused_iff _ (tooLarge limit size) rfl, large, within, something, true_and, false_and, or_false]
    rfl
  | left within gone =>
    have small : ¬ limit < (joined delivery.chunks).size := Nat.not_lt.mpr within
    simp only [refused_iff _ disconnected rfl, small, within, gone, true_and, false_and, false_or, Bool.true_eq_false,
      and_false, or_false]
    rfl
  | nothing stayed empty =>
    simp only [refused_iff _ missing rfl, empty, stayed, Nat.not_lt_zero, true_and, false_and, false_or, and_false,
      Bool.false_eq_true]
    rfl
  | whole stayed something within =>
    have small : ¬ limit < (joined delivery.chunks).size := Nat.not_lt.mpr within
    have filled : (joined delivery.chunks).size ≠ 0 := Nat.ne_of_gt something
    simp only [Refused, small, filled, stayed, false_and, and_false, or_false, Bool.false_eq_true, reduceCtorEq,
      exists_false]

theorem read_taken (limit : Nat) (chunks : List ByteArray) (body : ByteArray) :
    read limit ⟨chunks, false⟩ = .ok body ↔
      body = joined chunks ∧ 1 ≤ (joined chunks).size ∧ (joined chunks).size ≤ limit := by
  rw [read_ok]
  constructor
  · rintro ⟨_, rfl, something, within⟩
    exact ⟨rfl, something, within⟩
  · rintro ⟨rfl, something, within⟩
    exact ⟨rfl, rfl, something, within⟩

/-- How a body is taken whose bytes come in these pieces. -/
structure Judged (limit : Nat) (chunks : List ByteArray) : Prop where
  taken : ∀ body, read limit ⟨chunks, false⟩ = .ok body ↔
    body = joined chunks ∧ 1 ≤ (joined chunks).size ∧ (joined chunks).size ≤ limit
  overgrown : Refused ("the request body exceeds the " ++ toString limit ++ " byte limit")
    (read limit ⟨chunks, false⟩) ↔ limit < (joined chunks).size
  missing : Refused "no request body was received" (read limit ⟨chunks, false⟩) ↔ (joined chunks).size = 0
  leftOvergrown : Refused ("the request body exceeds the " ++ toString limit ++ " byte limit")
    (read limit ⟨chunks, true⟩) ↔ limit < (joined chunks).size
  left : Refused "could not read the request body" (read limit ⟨chunks, true⟩) ↔ (joined chunks).size ≤ limit
  untaken : ∀ body, read limit ⟨chunks, true⟩ ≠ .ok body

theorem read_judged (limit : Nat) (chunks : List ByteArray) : Judged limit chunks := by
  obtain ⟨unleft, unmissed⟩ := too_large_apart (toString limit)
  have refused (gone : Bool) := read_refused limit ⟨chunks, gone⟩
  rw [too_large_worded] at unleft unmissed
  simp only [too_large_worded] at refused
  refine ⟨read_taken limit chunks, ?_, ?_, ?_, ?_, ?_⟩
  · simp only [refused, unmissed.symm, Bool.false_eq_true, false_and, and_false, and_true, or_false]
  · simp only [refused, unmissed, Bool.false_eq_true, false_and, and_false, and_true, false_or]
  · simp only [refused, unleft.symm, Bool.true_eq_false, false_and, and_false, and_true, or_false]
  · simp only [refused, unleft, Bool.true_eq_false, false_and, and_false, and_true, false_or, or_false]
  · intro body taken
    cases ((read_ok _ _ _).mp taken).1

end Gatehouse.Body

namespace Gatehouse.Endpoint

-- The same bytes in other pieces.
def Rechunked (first second : Delivery) : Prop :=
  Body.joined first.chunks = Body.joined second.chunks ∧ first.disconnected = second.disconnected

-- Only how much had come when the body was given up may differ.
theorem rechunked_read (limit : Nat) (first second : Delivery) (same : Rechunked first second) :
    Body.read limit first = Body.read limit second ∨
      ∃ size other, Body.read limit first = .error (Body.tooLarge limit size) ∧
        Body.read limit second = .error (Body.tooLarge limit other) := by
  obtain ⟨bytes, gone⟩ := same
  simp only [Body.joined] at bytes
  rw [Body.read, Body.read]
  rcases Body.gather_cases limit ByteArray.empty first.chunks (Nat.zero_le _) with
      ⟨gathered, within⟩ | ⟨size, gathered, large⟩ <;>
    rcases Body.gather_cases limit ByteArray.empty second.chunks (Nat.zero_le _) with
      ⟨others, small⟩ | ⟨other, others, great⟩
  · rw [gathered, others, bytes, gone]
    exact .inl rfl
  · rw [bytes] at within
    omega
  · rw [bytes] at large
    omega
  · rw [gathered, others]
    exact .inr ⟨size, other, rfl, rfl⟩

theorem course_unread (endpoint : Endpoint) (delivery : Delivery) (failure : Classified)
    (unread : Body.read endpoint.limit delivery = .error failure) :
    endpoint.course delivery = .refused Origin.unknown failure := by
  have refused : (endpoint.receive delivery).outcome = .error failure := by
    rw [receive, unread]
    rfl
  rw [course, refused]

theorem rechunked_closes (endpoint : Endpoint) (failures : Nat) (first second : Delivery)
    (same : Rechunked first second) :
    (endpoint.course first).close failures = (endpoint.course second).close failures := by
  rcases rechunked_read endpoint.limit first second same with alike | ⟨size, other, unread, others⟩
  · have received : endpoint.receive first = endpoint.receive second := by rw [receive, receive, alike]
    rw [course, course, received]
  · rw [course_unread endpoint first _ unread, course_unread endpoint second _ others]
    rfl

theorem rechunked_answers (endpoint : Endpoint) (failures : Nat) (deliveries others : List Delivery)
    (same : List.Forall₂ Rechunked deliveries others) :
    (endpoint.handleAll failures deliveries).map Prod.snd = (endpoint.handleAll failures others).map Prod.snd := by
  induction same generalizing failures with
  | nil => rfl
  | cons first _ ih =>
    rw [handle_all_cons, handle_all_cons, List.map_cons, List.map_cons, handle_answer, handle_answer, handle_failures,
      handle_failures, rechunked_closes endpoint failures _ _ first, ih]

theorem bodies_judged_by_bytes (given : Option Int) (chunks : List ByteArray)
    (judge : Review → Told Refusal Verdict) (label : String) (failures : Nat) (deliveries others : List Delivery)
    (same : List.Forall₂ Rechunked deliveries others) :
    Body.Judged (effectiveLimit given) chunks ∧
      (handleAll ⟨judge, label, effectiveLimit given⟩ failures deliveries).map Prod.snd =
        (handleAll ⟨judge, label, effectiveLimit given⟩ failures others).map Prod.snd :=
  ⟨Body.read_judged _ chunks, rechunked_answers _ failures deliveries others same⟩

/- Four bytes that fill the limit, at once and in pieces, and five that exceed it at once and with the last piece. -/

def atOnce : List Delivery := [⟨[⟨#[1, 2, 3, 4]⟩], false⟩, ⟨[⟨#[1, 2, 3, 4, 5]⟩], true⟩]

def inPieces : List Delivery := [⟨[⟨#[1]⟩, ⟨#[]⟩, ⟨#[2, 3, 4]⟩], false⟩, ⟨[⟨#[1, 2, 3]⟩, ⟨#[4, 5]⟩], true⟩]

def refusing : Review → Told Refusal Verdict := fun _ => .fail (.violation .noRequest)

theorem pieces_rechunked : List.Forall₂ Rechunked atOnce inPieces :=
  .cons ⟨by decide +kernel, rfl⟩ (.cons ⟨by decide +kernel, rfl⟩ .nil)

theorem pieces_judged_together :
    List.Forall₂ Rechunked atOnce inPieces ∧
      Body.read (effectiveLimit (some 4)) ⟨[⟨#[1]⟩, ⟨#[]⟩, ⟨#[2, 3, 4]⟩], false⟩ = .ok ⟨#[1, 2, 3, 4]⟩ ∧
      Body.Refused "the request body exceeds the 4 byte limit"
        (Body.read (effectiveLimit (some 4)) ⟨[⟨#[1, 2, 3]⟩, ⟨#[4, 5]⟩], true⟩) ∧
      (handleAll ⟨refusing, "refusing", effectiveLimit (some 4)⟩ 0 atOnce).map Prod.snd =
        (handleAll ⟨refusing, "refusing", effectiveLimit (some 4)⟩ 0 inPieces).map Prod.snd := by
  obtain ⟨filling, answers⟩ := bodies_judged_by_bytes (some 4) [⟨#[1]⟩, ⟨#[]⟩, ⟨#[2, 3, 4]⟩] refusing "refusing" 0
    atOnce inPieces pieces_rechunked
  obtain ⟨exceeding, _⟩ := bodies_judged_by_bytes (some 4) [⟨#[1, 2, 3]⟩, ⟨#[4, 5]⟩] refusing "refusing" 0 atOnce
    inPieces pieces_rechunked
  exact ⟨pieces_rechunked, (filling.taken _).mpr (by decide +kernel), exceeding.leftOvergrown.mpr (by decide +kernel),
    answers⟩

end Gatehouse.Endpoint
