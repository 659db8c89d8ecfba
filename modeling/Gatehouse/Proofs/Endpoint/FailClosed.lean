import Gatehouse.Proofs.Codec
import Gatehouse.Proofs.Endpoint.Course
import Gatehouse.Proofs.ReviewText

/- The endpoint fails closed. A review that allows is sent only for a request that was read whole and decided, once,
   with a response that allows or a failure that says so; everything else that is sent denies. -/
namespace Gatehouse.Endpoint

/- Reading -/

theorem receive_ok (endpoint : Endpoint) (delivery : Delivery) (review : Review) (request : Request) :
    (endpoint.receive delivery).outcome = .ok (review, request) ↔ ∃ body, Body.read endpoint.limit delivery = .ok body ∧
      (Codec.decodeReview body).outcome = .ok review ∧ review.request = some request := by
  rw [receive, Told.bind_ok]
  constructor
  · rintro ⟨body, read, later⟩
    obtain ⟨found, decoded, later⟩ := (Told.bind_ok _ _ _).mp later
    split at later
    · cases later
    · rename_i asked present
      cases later
      exact ⟨body, read, (Told.map_error_ok _ _ _).mp decoded, present⟩
  · rintro ⟨body, read, decoded, present⟩
    refine ⟨body, read, (Told.bind_ok _ _ _).mpr ⟨review, (Told.map_error_ok _ _ _).mpr decoded, ?_⟩⟩
    rw [present]
    rfl

theorem gather_denied (limit : Nat) (body : ByteArray) (chunks : List ByteArray) (failure : Classified)
    (refused : Body.gather limit body chunks = .error failure) : failure.allowed = false := by
  induction chunks generalizing body with
  | nil => cases refused
  | cons chunk rest ih =>
    rw [Body.gather] at refused
    split at refused
    · cases refused
      rfl
    · exact ih _ refused

theorem read_denied (limit : Nat) (delivery : Delivery) (failure : Classified)
    (refused : Body.read limit delivery = .error failure) : failure.allowed = false := by
  rw [Body.read] at refused
  split at refused
  · rename_i gathered
    cases refused
    exact gather_denied _ _ _ _ gathered
  · split at refused
    · cases refused
      rfl
    · split at refused
      · cases refused
        rfl
      · cases refused

theorem receive_denied (endpoint : Endpoint) (delivery : Delivery) (failure : Classified)
    (refused : (endpoint.receive delivery).outcome = .error failure) : failure.allowed = false := by
  rw [receive] at refused
  rcases (Told.bind_error _ _ _).mp refused with unread | ⟨body, _, later⟩
  · exact read_denied _ _ _ unread
  · rcases (Told.bind_error _ _ _).mp later with undecoded | ⟨review, _, later⟩
    · obtain ⟨cause, _, rfl⟩ := (Told.map_error_error _ _ _).mp undecoded
      rfl
    · split at later
      · cases later
        rfl
      · cases later

/- Deciding. An approval is what a decision function gives that lets an object in. -/

theorem ask_ok (endpoint : Endpoint) (review : Review) (request : Request) (verdict : Verdict) :
    (endpoint.ask review request).outcome = .ok verdict ↔ (endpoint.judge review).outcome = .ok verdict := by
  cases decided : (endpoint.judge review).outcome with
  | ok found => simp only [ask, decided, Except.ok.injEq]
  | error refusal =>
    simp only [ask, decided]
    cases refusal <;> simp [classify, Told.tell, bind, Told.andThen]

theorem ask_allowed (endpoint : Endpoint) (review : Review) (request : Request) (failure : Classified)
    (allowed : failure.allowed = true) : (endpoint.ask review request).outcome = .error failure ↔
      (endpoint.judge review).outcome = .error (.classified failure) := by
  cases decided : (endpoint.judge review).outcome with
  | ok found => simp only [ask, decided, reduceCtorEq]
  | error refusal =>
    simp only [ask, decided]
    -- only a failure that already says how it is to be answered may allow
    cases refusal with
    | classified found => simp [classify]
    | foreign found =>
      simp only [classify, Told.tell, bind, Told.andThen, Told.fail_outcome]
      constructor
      · rintro ⟨⟩
        cases allowed
      · rintro ⟨⟩
    | _ =>
      simp only [classify, Told.fail_outcome]
      constructor
      · rintro ⟨⟩
        cases allowed
      · rintro ⟨⟩

theorem response_of_denied (endpoint : Endpoint) (request : Request) (verdict : Verdict) (failure : Classified)
    (refused : endpoint.responseOf request verdict = .error failure) : failure.allowed = false := by
  cases verdict with
  | nothing =>
    cases refused
    rfl
  | response response => cases refused
  | value value =>
    simp only [responseOf] at refused
    split at refused
    · cases refused
    · cases refused
      rfl

inductive Approval : Except Refusal Verdict → Prop where
  | response (response : Response) (allowed : response.allowed = true) : Approval (.ok (.response response))
  | value (value : Json) (response : Response) (valid : Response.shape.validate Response.title value = .ok response)
    (allowed : response.allowed = true) : Approval (.ok (.value value))
  | raised (failure : Classified) (allowed : failure.allowed = true) : Approval (.error (.classified failure))

theorem approval_ok (endpoint : Endpoint) (request : Request) (verdict : Verdict) : Approval (.ok verdict) ↔
    ∃ response, endpoint.responseOf request verdict = .ok response ∧ response.allowed = true := by
  constructor
  · intro approval
    cases approval with
    | response response allowed => exact ⟨response, rfl, allowed⟩
    | value value response valid allowed => exact ⟨response, by simp only [responseOf, valid], allowed⟩
  · rintro ⟨response, given, allowed⟩
    cases verdict with
    | nothing => cases given
    | response found =>
      cases given
      exact .response response allowed
    | value value =>
      simp only [responseOf] at given
      split at given
      · rename_i found valid
        cases given
        exact .value value response valid allowed
      · cases given

theorem decide_ok (endpoint : Endpoint) (review : Review) (request : Request) (outgoing : Review) :
    (endpoint.decide review request).outcome = .ok outgoing ↔ ∃ verdict response,
      (endpoint.judge review).outcome = .ok verdict ∧ endpoint.responseOf request verdict = .ok response ∧
        outgoing = answerWith review.apiVersion { response with uid := request.uid } := by
  rw [decide, Told.bind_ok]
  constructor
  · rintro ⟨verdict, asked, later⟩
    obtain ⟨response, given, same⟩ := (Told.bind_ok _ _ _).mp later
    cases same
    exact ⟨verdict, response, (ask_ok _ _ _ _).mp asked, given, rfl⟩
  · rintro ⟨verdict, response, judged, given, rfl⟩
    exact ⟨verdict, (ask_ok _ _ _ _).mpr judged, (Told.bind_ok _ _ _).mpr ⟨response, given, rfl⟩⟩

theorem decide_allowed (endpoint : Endpoint) (review : Review) (request : Request) (failure : Classified)
    (allowed : failure.allowed = true) : (endpoint.decide review request).outcome = .error failure ↔
      (endpoint.judge review).outcome = .error (.classified failure) := by
  rw [← ask_allowed endpoint review request failure allowed, decide, Told.bind_error]
  constructor
  · rintro (refused | ⟨verdict, _, later⟩)
    · exact refused
    · rcases (Told.bind_error _ _ _).mp later with given | ⟨response, _, same⟩
      · rw [response_of_denied endpoint request verdict failure given] at allowed
        cases allowed
      · cases same
  · exact .inl

theorem decide_approves (endpoint : Endpoint) (review : Review) (request : Request) :
    Approval (endpoint.judge review).outcome ↔
      (∃ outgoing response, (endpoint.decide review request).outcome = .ok outgoing ∧
        outgoing.response = some response ∧ response.allowed = true) ∨
      (∃ failure, (endpoint.decide review request).outcome = .error failure ∧ failure.allowed = true) := by
  constructor
  · intro approval
    cases judged : (endpoint.judge review).outcome with
    | ok verdict =>
      rw [judged] at approval
      obtain ⟨response, given, allowed⟩ := (approval_ok endpoint request verdict).mp approval
      have decided := (decide_ok _ _ _ _).mpr ⟨verdict, response, judged, given, rfl⟩
      exact .inl ⟨_, _, decided, rfl, allowed⟩
    | error refusal =>
      rw [judged] at approval
      cases approval with
      | raised failure allowed => exact .inr ⟨failure, (decide_allowed _ _ _ _ allowed).mpr judged, allowed⟩
  · rintro (⟨outgoing, response, decided, present, allowed⟩ | ⟨failure, decided, allowed⟩)
    · obtain ⟨verdict, found, judged, given, rfl⟩ := (decide_ok _ _ _ _).mp decided
      cases present
      rw [judged]
      exact (approval_ok endpoint request verdict).mpr ⟨found, given, allowed⟩
    · rw [(decide_allowed _ _ _ _ allowed).mp decided]
      exact .raised failure allowed

/- What is sent. A request is received when it came whole, within the limit and with a review that asks. -/

structure Received (endpoint : Endpoint) (delivery : Delivery) (review : Review) (request : Request) : Prop where
  stayed : delivery.disconnected = false
  filled : 0 < (Body.joined delivery.chunks).size
  within : (Body.joined delivery.chunks).size ≤ endpoint.limit
  decoded : (Codec.decodeReview (Body.joined delivery.chunks)).outcome = .ok review
  asks : review.request = some request

theorem receive_received (endpoint : Endpoint) (delivery : Delivery) (review : Review) (request : Request) :
    (endpoint.receive delivery).outcome = .ok (review, request) ↔ Received endpoint delivery review request := by
  rw [receive_ok]
  constructor
  · rintro ⟨body, read, decoded, asks⟩
    obtain ⟨stayed, rfl, filled, within⟩ := (Body.read_ok _ _ _).mp read
    exact ⟨stayed, filled, within, decoded, asks⟩
  · rintro ⟨stayed, filled, within, decoded, asks⟩
    exact ⟨_, (Body.read_ok _ _ _).mpr ⟨stayed, rfl, filled, within⟩, decoded, asks⟩

def Course.Allows : Course → Prop
  | .answered _ review => ∃ response, review.response = some response ∧ response.allowed = true
  | .refused _ failure => failure.allowed = true

theorem course_allows (endpoint : Endpoint) (delivery : Delivery) : (endpoint.course delivery).Allows ↔
    ∃ review request, Received endpoint delivery review request ∧ Approval (endpoint.judge review).outcome := by
  simp only [← receive_received]
  cases received : (endpoint.receive delivery).outcome with
  | error failure =>
    have denied := receive_denied endpoint delivery failure received
    simp [course, received, Course.Allows, denied]
  | ok pair =>
    obtain ⟨review, request⟩ := pair
    have only : (∃ other asked, (.ok (review, request) : Except Classified _) = .ok (other, asked) ∧
        Approval (endpoint.judge other).outcome) ↔ Approval (endpoint.judge review).outcome := by
      constructor
      · rintro ⟨other, asked, same, approval⟩
        cases same
        exact approval
      · exact fun approval => ⟨review, request, rfl, approval⟩
    rw [only, decide_approves endpoint review request]
    cases decided : (endpoint.decide review request).outcome with
    | error failure => simp [course, received, decided, Course.Allows]
    | ok outgoing => simp [course, received, decided, Course.Allows]

theorem close_allows (endpoint : Endpoint) (failures : Nat) (delivery : Delivery) (review : Review)
    (response : Response) (sent : ((endpoint.course delivery).close failures).2 = .review (Codec.encode .review review))
    (present : review.response = some response) :
    response.allowed = true ↔ failures = 0 ∧ (endpoint.course delivery).Allows := by
  cases came : endpoint.course delivery with
  | refused origin failure =>
    rw [came] at sent
    cases failures with
    | zero =>
      simp only [Course.close, closing, Answer.review.injEq] at sent
      rw [← Review.same_text_allowed _ _ _ _ rfl rfl present sent]
      simp [Course.Allows]
    | succ left => cases sent
  | answered origin outgoing =>
    rw [came] at sent
    obtain ⟨given, rfl, _⟩ := course_answers endpoint delivery origin outgoing came
    cases failures with
    | zero =>
      simp only [Course.close, closing, Answer.review.injEq] at sent
      rw [← Review.same_text_allowed _ _ _ _ rfl rfl present sent]
      simp [Course.Allows, answerWith]
    | succ left =>
      cases left with
      | zero =>
        -- the outgoing review is lost here, whatever it said
        simp only [Course.close, closing, Answer.review.injEq] at sent
        rw [← Review.same_text_allowed _ _ _ _ rfl rfl present sent]
        simp [unencodable]
      | succ less => cases sent

/- Asking. A watched decision function first tells that it is asked; where none is asked, any other would do. -/

def watched (endpoint : Endpoint) (mark : Review → Entry) : Endpoint :=
  { endpoint with judge := fun review =>
      ⟨mark review :: (endpoint.judge review).journal, (endpoint.judge review).outcome⟩ }

theorem ask_watched (endpoint : Endpoint) (mark : Review → Entry) (review : Review) (request : Request) :
    (endpoint.watched mark).ask review request =
      ⟨mark review :: (endpoint.ask review request).journal, (endpoint.ask review request).outcome⟩ := by
  simp only [ask, watched]
  cases (endpoint.judge review).outcome <;> rfl

theorem decide_watched (endpoint : Endpoint) (mark : Review → Entry) (review : Review) (request : Request) :
    (endpoint.watched mark).decide review request =
      ⟨mark review :: (endpoint.decide review request).journal, (endpoint.decide review request).outcome⟩ := by
  simp only [decide, bind, Told.andThen, ask_watched]
  cases (endpoint.ask review request).outcome <;> rfl

def AskedOnce (endpoint : Endpoint) (failures : Nat) (delivery : Delivery) (review : Review) : Prop :=
  ∃ early late, (endpoint.handle failures delivery).2.1 = early ++ late ∧ ∀ mark,
    (endpoint.watched mark).handle failures delivery =
      ((endpoint.handle failures delivery).1, early ++ mark review :: late, (endpoint.handle failures delivery).2.2)

def Unasked (endpoint : Endpoint) (failures : Nat) (delivery : Delivery) : Prop :=
  ∀ judge, ({ endpoint with judge := judge } : Endpoint).handle failures delivery = endpoint.handle failures delivery

theorem received_asked (endpoint : Endpoint) (failures : Nat) (delivery : Delivery) (review : Review)
    (request : Request) (whole : Received endpoint delivery review request) :
    AskedOnce endpoint failures delivery review := by
  have received := (receive_received _ _ _ _).mpr whole
  -- reading does not look at the decision function
  have same (mark : Review → Entry) : (endpoint.watched mark).receive delivery = endpoint.receive delivery := rfl
  have again (mark : Review → Entry) := (congrArg Told.outcome (same mark)).trans received
  have still (mark : Review → Entry) := congrArg Told.outcome (decide_watched endpoint mark review request)
  cases decided : (endpoint.decide review request).outcome with
  | error failure =>
    rw [AskedOnce, handle_undecided _ _ _ _ _ _ received decided]
    refine ⟨_, _, List.append_assoc _ _ _, fun mark => ?_⟩
    rw [handle_undecided _ _ _ _ _ _ (again mark) ((still mark).trans decided), decide_watched, same]
    simp only [List.append_assoc, List.cons_append]
  | ok outgoing =>
    cases failures with
    | zero =>
      rw [AskedOnce, handle_encoded _ _ _ _ _ received decided]
      refine ⟨_, _, rfl, fun mark => ?_⟩
      rw [handle_encoded _ _ _ _ _ (again mark) ((still mark).trans decided), decide_watched, same]
    | succ left =>
      rw [AskedOnce, handle_unencoded _ _ _ _ _ _ received decided]
      refine ⟨_, _, List.append_assoc _ _ _, fun mark => ?_⟩
      rw [handle_unencoded _ _ _ _ _ _ (again mark) ((still mark).trans decided), decide_watched, same]
      simp only [List.append_assoc, List.cons_append]

theorem unreceived_unasked (endpoint : Endpoint) (failures : Nat) (delivery : Delivery) (failure : Classified)
    (received : (endpoint.receive delivery).outcome = .error failure) : Unasked endpoint failures delivery := by
  intro judge
  have same : ({ endpoint with judge := judge } : Endpoint).receive delivery = endpoint.receive delivery := rfl
  have again := (congrArg Told.outcome same).trans received
  rw [handle_unreceived _ _ _ _ received, handle_unreceived _ _ _ _ again, same]

/- Admission -/

structure Admitted (endpoint : Endpoint) (failures : Nat) (delivery : Delivery) (review : Review) (request : Request) :
    Prop extends Received endpoint delivery review request where
  asked : AskedOnce endpoint failures delivery review
  approved : Approval (endpoint.judge review).outcome
  encoded : failures = 0

theorem allows_only_admitted (endpoint : Endpoint) (failures : Nat) (delivery : Delivery) :
    (∀ sent response, (endpoint.handle failures delivery).2.2 = .review (Codec.encode .review sent) →
      sent.response = some response →
        (response.allowed = true ↔ ∃ review request, Admitted endpoint failures delivery review request)) ∧
    ((¬ ∃ review request, Received endpoint delivery review request) → Unasked endpoint failures delivery) := by
  constructor
  · intro sent response answered present
    rw [handle_answer] at answered
    rw [close_allows endpoint failures delivery sent response answered present, course_allows]
    constructor
    · rintro ⟨encoded, review, request, whole, approved⟩
      have asked := received_asked endpoint failures delivery review request whole
      exact ⟨review, request, whole, asked, approved, encoded⟩
    · rintro ⟨review, request, admitted⟩
      exact ⟨admitted.encoded, review, request, admitted.toReceived, admitted.approved⟩
  · intro unreceived
    cases received : (endpoint.receive delivery).outcome with
    | error failure => exact unreceived_unasked endpoint failures delivery failure received
    | ok pair => exact absurd ⟨pair.1, pair.2, (receive_received _ _ _ _).mp received⟩ unreceived

-- A document that comes in one piece.
theorem written_received (endpoint : Endpoint) (source : Json) (review : Review) (request : Request)
    (fits : source.Fits nestingRoom) (whole : source.finite = true) (read : Review.shape.read source = .ok review)
    (asks : review.request = some request) (within : (Utf8.encode (source.text Json.compact)).size ≤ endpoint.limit) :
    Received endpoint ⟨[Utf8.encode (source.text Json.compact)], false⟩ review request := by
  have joined : Body.joined [Utf8.encode (source.text Json.compact)] = Utf8.encode (source.text Json.compact) :=
    ByteArray.empty_append
  refine ⟨rfl, ?_, ?_, ?_, asks⟩
  · rw [joined]
    exact (Body.is_empty_false _).mp (Codec.json_text_filled _ _ Json.compact_loses source)
  · rw [joined]
    exact within
  · rw [joined]
    exact Codec.written_review_decodes source review fits whole read

/- An endpoint that allows whatever comes in one piece, which is as large as its limit. -/

def approving (body : ByteArray) : Endpoint :=
  ⟨fun _ => pure (.response ⟨"", true, none, none, none, none⟩), "approve", body.size⟩

theorem approving_receives (body : ByteArray) (review : Review) (request : Request) (filled : body.isEmpty = false)
    (decoded : (Codec.decodeReview body).outcome = .ok review) (asks : review.request = some request) :
    Received (approving body) ⟨[body], false⟩ review request := by
  have whole : Body.joined [body] = body := ByteArray.empty_append
  refine ⟨rfl, ?_, ?_, ?_, asks⟩
  · rw [whole]
    exact (Body.is_empty_false body).mp filled
  · rw [whole]
    exact Nat.le_refl body.size
  · rw [whole]
    exact decoded

theorem approving_answers (body : ByteArray) (review : Review) (request : Request)
    (received : Received (approving body) ⟨[body], false⟩ review request) :
    ((approving body).handle 0 ⟨[body], false⟩).2.2 = .review (Codec.encode .review
      (answerWith review.apiVersion ⟨request.uid, true, none, none, none, none⟩)) := by
  have decided : ((approving body).decide review request).outcome =
    .ok (answerWith review.apiVersion ⟨request.uid, true, none, none, none, none⟩) := rfl
  rw [handle_encoded _ _ _ _ _ ((receive_received _ _ _ _).mpr received) decided]

def askingSource : Json := .object [("request", .object [("uid", .string "a1")])]

def askingRequest : Request :=
  ⟨"a1", ⟨"", "", ""⟩, none, none, none, none, none, none, none, none, none, none⟩

def askingReview : Review := ⟨.v1, Review.title, some askingRequest, none⟩

def askingBody : ByteArray := Utf8.encode (askingSource.text Json.compact)

theorem asking_received : Received (approving askingBody) ⟨[askingBody], false⟩ askingReview askingRequest := by
  have fits : askingSource.Fits nestingRoom := by simp [askingSource, nestingRoom, Json.AllFit]
  have filled : askingBody.isEmpty = false := by
    rw [askingBody]
    exact Codec.json_text_filled _ _ Json.compact_loses askingSource
  have decoded : (Codec.decodeReview askingBody).outcome = .ok askingReview := by
    rw [askingBody]
    exact Codec.written_review_decodes askingSource askingReview fits rfl rfl
  exact approving_receives askingBody askingReview askingRequest filled decoded rfl

theorem asking_admitted : ∃ sent response,
    ((approving askingBody).handle 0 ⟨[askingBody], false⟩).2.2 = .review (Codec.encode .review sent) ∧
      sent.response = some response ∧ response.allowed = true ∧
      ∃ review request, Admitted (approving askingBody) 0 ⟨[askingBody], false⟩ review request := by
  have answered := approving_answers askingBody askingReview askingRequest asking_received
  have only := (allows_only_admitted (approving askingBody) 0 ⟨[askingBody], false⟩).1 _ _ answered rfl
  exact ⟨_, _, answered, rfl, rfl, only.mp rfl⟩

end Gatehouse.Endpoint
