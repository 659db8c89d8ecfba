import Gatehouse.Proofs.Endpoint.Answers
import Gatehouse.Proofs.Endpoint.FailClosed

/- What an endpoint tells of a request is what it answers. It raises no alarm about a request whose review it could
   send; about a denial it warns once, with the message that the error review carries. An error before the warning is a
   failure from outside, an error after it an answer without a review. -/
namespace Gatehouse

def Entry.isAlarm (entry : Entry) : Bool := entry.level == .warning || entry.level == .error

def alarms (journal : Journal) : Journal := journal.filter Entry.isAlarm

theorem alarms_append (early late : Journal) : alarms (early ++ late) = alarms early ++ alarms late :=
  List.filter_append early late

-- The review carries a response whose status has this message.
def Review.BearsMessage (review : Review) (message : String) : Prop :=
  ∃ response status, review.response = some response ∧ response.result = some status ∧ status.message = message

namespace Endpoint

-- What the decision function tells itself, where it is asked.
def judgeJournal (endpoint : Endpoint) (delivery : Delivery) : Journal :=
  match (endpoint.receive delivery).outcome with
  | .error _ => []
  | .ok (review, _) => (endpoint.judge review).journal

-- The error about a decision that failed from outside, and none about any other request.
inductive Raised (endpoint : Endpoint) (delivery : Delivery) : Journal → Prop where
  | outside (review : Review) (request : Request) (failure : Foreign)
    (received : (endpoint.receive delivery).outcome = .ok (review, request))
    (failed : (endpoint.judge review).outcome = .error (.foreign failure)) :
    Raised endpoint delivery [⟨.error, "Admission function failed for request " ++ request.uid⟩]
  | never (inside : ∀ review request failure, (endpoint.receive delivery).outcome = .ok (review, request) →
      (endpoint.judge review).outcome ≠ .error (.foreign failure)) : Raised endpoint delivery []

-- How an error review is sent, and the error about one that could not be.
inductive Sent (review : Review) : Answer → Journal → Prop where
  | encoded : Sent review (.review (Codec.encode .review review)) []
  | lost : Sent review .failed [⟨.error, "failed to marshal review response"⟩]

/-- The alarms of an endpoint about one request, told by its answer. -/
inductive Alarmed (endpoint : Endpoint) (failures : Nat) (delivery : Delivery) : Answer → Journal → Prop where
  | success (origin : Origin) (review : Review) (answered : endpoint.course delivery = .answered origin review)
    (encodes : failures = 0) : Alarmed endpoint failures delivery (.review (Codec.encode .review review)) []
  | denial (left : Nat) (review : Review) (message detail : String) (answer : Answer) (before after : Journal)
    (denied : (endpoint.course delivery).errorReview? failures = some (left, review))
    (worded : review.BearsMessage message) (raised : Raised endpoint delivery before)
    (sent : Sent review answer after) :
    Alarmed endpoint failures delivery answer
      (before ++ ⟨.warning, message ++ " (debug: " ++ detail ++ ")"⟩ :: after)

/- The stages of a request -/

theorem decode_quiet (bytes : ByteArray) : alarms (Codec.decodeReview bytes).journal = [] := by
  rw [Codec.decodeReview, Codec.decode, Codec.decodeShape]
  split
  · rfl
  · split <;> rfl

theorem receive_quiet (endpoint : Endpoint) (delivery : Delivery) :
    alarms (endpoint.receive delivery).journal = [] := by
  have quiet (first : Told Classified Review) (next : Review → Told Classified (Review × Request))
      (told : alarms first.journal = []) (later : ∀ review, (next review).journal = []) :
      alarms (first >>= next).journal = [] := by
    show alarms (first.andThen next).journal = []
    rw [Told.andThen]
    split
    · exact told
    · rw [later, List.append_nil]
      exact told
  rw [receive]
  cases read : Body.read endpoint.limit delivery with
  | error failure => rfl
  | ok body =>
    refine quiet _ _ (decode_quiet body) fun review => ?_
    cases review.request <;> rfl

theorem ask_told (endpoint : Endpoint) (delivery : Delivery) (review : Review) (request : Request)
    (received : (endpoint.receive delivery).outcome = .ok (review, request)) : ∃ raised,
      (endpoint.ask review request).journal = (endpoint.judge review).journal ++ raised ∧
        Raised endpoint delivery raised := by
  have asked (other : Review) (same : Request) (found : (endpoint.receive delivery).outcome = .ok (other, same)) :
      other = review := by
    rw [received] at found
    cases found
    rfl
  cases decided : (endpoint.judge review).outcome with
  | ok verdict =>
    refine ⟨[], by simp only [ask, decided, List.append_nil], .never fun other same failure found failed => ?_⟩
    rw [asked other same found, decided] at failed
    cases failed
  | error refusal =>
    refine ⟨(classify request refusal).journal, by simp only [ask, decided], ?_⟩
    cases refusal with
    | foreign failure => exact .outside review request failure received decided
    | _ =>
      refine .never fun other same failure found failed => ?_
      rw [asked other same found, decided] at failed
      cases failed

theorem decide_told (endpoint : Endpoint) (review : Review) (request : Request) :
    (endpoint.decide review request).journal = (endpoint.ask review request).journal := by
  show ((endpoint.ask review request).andThen _).journal = _
  rw [Told.andThen]
  split
  · rfl
  · rename_i verdict _
    show _ ++ ((Told.lift (endpoint.responseOf request verdict)).andThen _).journal = _
    rw [Told.andThen]
    split <;> exact List.append_nil _

theorem error_review_bears (origin : Origin) (failure : Classified) :
    (errorReview origin failure).BearsMessage failure.message := ⟨_, _, rfl, rfl, rfl⟩

theorem answer_failure_told (failures : Nat) (origin : Origin) (failure : Classified) : ∃ after,
    (answerFailure failures origin failure).2.1 =
        ⟨.warning, failure.message ++ " (debug: " ++ failure.debug ++ ")"⟩ :: after ∧
      Sent (errorReview origin failure) (answerFailure failures origin failure).2.2 after := by
  cases failures with
  | zero => exact ⟨[], rfl, .encoded⟩
  | succ left => exact ⟨_, rfl, .lost⟩

theorem denial_alarmed (endpoint : Endpoint) (failures left : Nat) (delivery : Delivery) (origin : Origin)
    (failure : Classified) (before : Journal) (raised : Raised endpoint delivery before)
    (denied : (endpoint.course delivery).errorReview? failures = some (left, errorReview origin failure)) :
    Alarmed endpoint failures delivery (answerFailure left origin failure).2.2
      (before ++ (answerFailure left origin failure).2.1) := by
  obtain ⟨after, told, sent⟩ := answer_failure_told left origin failure
  rw [told]
  exact .denial left _ _ _ _ _ _ denied (error_review_bears origin failure) raised sent

/- Whole requests -/

-- An error review is told with nothing but alarms.
theorem denial_alarms (endpoint : Endpoint) (delivery : Delivery) (failures : Nat) (origin : Origin)
    (failure : Classified) (before : Journal) (raised : Raised endpoint delivery before) :
    alarms (before ++ (answerFailure failures origin failure).2.1) =
      before ++ (answerFailure failures origin failure).2.1 := by
  have own : alarms before = before := by cases raised <;> rfl
  have told : alarms (answerFailure failures origin failure).2.1 = (answerFailure failures origin failure).2.1 := by
    cases failures <;> rfl
  rw [alarms_append, own, told]

theorem undecided_told (endpoint : Endpoint) (delivery : Delivery) (failure : Classified)
    (refused : (endpoint.receive delivery).outcome = .error failure) : Raised endpoint delivery [] := by
  refine .never fun review request foreign received => ?_
  rw [refused] at received
  cases received

theorem decided_untold (endpoint : Endpoint) (delivery : Delivery) (review : Review) (request : Request)
    (outgoing : Review) (raised : Journal) (received : (endpoint.receive delivery).outcome = .ok (review, request))
    (decided : (endpoint.decide review request).outcome = .ok outgoing) (story : Raised endpoint delivery raised) :
    raised = [] := by
  obtain ⟨verdict, asked, _⟩ := (Told.bind_ok _ _ _).mp decided
  have judged := (ask_ok endpoint review request verdict).mp asked
  cases story with
  | never => rfl
  | outside other same failure found failed =>
    rw [received] at found
    cases found
    rw [judged] at failed
    cases failed

theorem handle_told (endpoint : Endpoint) (failures : Nat) (delivery : Delivery) : ∃ late,
    (endpoint.handle failures delivery).2.1 =
        (endpoint.receive delivery).journal ++ endpoint.judgeJournal delivery ++ late ∧
      Alarmed endpoint failures delivery (endpoint.handle failures delivery).2.2 (alarms late) := by
  cases received : (endpoint.receive delivery).outcome with
  | error failure =>
    have course : endpoint.course delivery = .refused Origin.unknown failure := by rw [course, received]
    have raised := undecided_told endpoint delivery failure received
    have denied : (endpoint.course delivery).errorReview? failures =
        some (failures, errorReview Origin.unknown failure) := by
      rw [course]
      rfl
    have alarmed := denial_alarmed endpoint failures failures delivery Origin.unknown failure [] raised denied
    have told := denial_alarms endpoint delivery failures Origin.unknown failure [] raised
    rw [handle_unreceived endpoint failures delivery failure received]
    refine ⟨(answerFailure failures Origin.unknown failure).2.1, ?_, ?_⟩
    · rw [judgeJournal, received, List.append_nil]
    · rw [List.nil_append] at told alarmed
      rw [told]
      exact alarmed
  | ok pair =>
    obtain ⟨review, request⟩ := pair
    obtain ⟨raised, asked, story⟩ := ask_told endpoint delivery review request received
    have journal : (endpoint.decide review request).journal = endpoint.judgeJournal delivery ++ raised := by
      rw [decide_told, asked, judgeJournal, received]
    -- A denial after the decision is told after what the decision told.
    have denial (left : Nat) (failure : Classified)
        (denied : (endpoint.course delivery).errorReview? failures =
          some (left, errorReview (originOf review request) failure)) : ∃ late,
        (endpoint.receive delivery).journal ++ (endpoint.decide review request).journal ++
            (answerFailure left (originOf review request) failure).2.1 =
          (endpoint.receive delivery).journal ++ endpoint.judgeJournal delivery ++ late ∧
        Alarmed endpoint failures delivery (answerFailure left (originOf review request) failure).2.2
          (alarms late) := by
      refine ⟨raised ++ (answerFailure left (originOf review request) failure).2.1, ?_, ?_⟩
      · rw [journal]
        simp only [List.append_assoc]
      · rw [denial_alarms endpoint delivery left _ failure raised story]
        exact denial_alarmed endpoint failures left delivery _ failure raised story denied
    cases decided : (endpoint.decide review request).outcome with
    | error failure =>
      rw [handle_undecided endpoint failures delivery review request failure received decided]
      exact denial failures failure (by simp only [course, received, decided]; rfl)
    | ok outgoing =>
      have answered : endpoint.course delivery = .answered (originOf review request) outgoing := by
        simp only [course, received, decided]
      cases failures with
      | succ left =>
        rw [handle_unencoded endpoint left delivery review request outgoing received decided]
        exact denial left unencodable (by rw [answered]; rfl)
      | zero =>
        have settled := decided_untold endpoint delivery review request outgoing raised received decided story
        rw [handle_encoded endpoint delivery review request outgoing received decided]
        refine ⟨[], ?_, .success _ outgoing answered rfl⟩
        rw [journal, settled]
        simp only [List.append_nil]

-- Whatever the requests before it left of the failing encodings, every request is told as it is answered.
theorem alarms_match_answers (endpoint : Endpoint) (failures : Nat) (before : List Delivery) (delivery : Delivery)
    (after : List Delivery) : ∃ early late answer,
      (endpoint.handleAll failures (before ++ delivery :: after))[before.length]? =
        some (early ++ endpoint.judgeJournal delivery ++ late, answer) ∧
      Alarmed endpoint (endpoint.remaining failures before) delivery answer (alarms (early ++ late)) := by
  obtain ⟨late, told, alarmed⟩ := handle_told endpoint (endpoint.remaining failures before) delivery
  refine ⟨(endpoint.receive delivery).journal, late,
    (endpoint.handle (endpoint.remaining failures before) delivery).2.2, ?_, ?_⟩
  · rw [answer_at, ← told]
  · rw [alarms_append, receive_quiet, List.nil_append]
    exact alarmed

end Endpoint
end Gatehouse
