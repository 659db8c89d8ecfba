import Gatehouse.Endpoint.OfPolicy
import Gatehouse.Proofs.Endpoint.Answers
import Gatehouse.Proofs.Endpoint.FailClosed
import Gatehouse.Proofs.Patch.Sent
import Gatehouse.Proofs.Policy.Autoscaler
import Gatehouse.Proofs.Response

/- What the endpoint sends is what it would take: standard JSON that is read as a review, is written again as the same
   text, and carries a patch only with its type and only as the text of a patch. Errors and the policies of the library
   are always answered so, and so is every response that the validators accept, unless it holds a status code or the
   operations of a patch that no document has room for. -/
namespace Gatehouse

namespace Endpoint

structure Acceptable (body : String) (review : Review) : Prop where
  standard : ∃ json, Json.read nestingRoom body = .ok json ∧ json.finite = true
  decoded : Codec.decodeReview (Utf8.encode body) = pure review
  encoded : Codec.encode .review review = body
  answered : ∃ response, review.response = some response ∧ response.patch.isSome = response.patchType.isSome ∧
    ∀ text, response.patch = some text → Patch.Taken text

theorem answer_acceptable (apiVersion : ApiVersion) (response : Response) (readable : response.Readable) :
    Acceptable (Codec.encode .review (answerWith apiVersion response)) (answerWith apiVersion response) := by
  have keeps : Review.shape.Keeps nestingRoom _ := answer_keeps 197 apiVersion response readable
  have whole := answer_finite apiVersion response
  refine ⟨⟨_, ?_, whole⟩, ?_, rfl, response, rfl, Response.readable_typed response readable, readable.taken⟩
  · have read := Json.read_text Json.compact _ Json.compact_loses _ nestingRoom keeps.1
    rwa [Json.reread_finite _ _ whole] at read
  · have filled := Codec.json_text_filled _ _ Json.compact_loses (Review.shape.write (answerWith apiVersion response))
    exact Codec.decode_shape_quiet Review.shape Review.title
      (Utf8.encode (Review.shape.encode (answerWith apiVersion response))) _ filled
      (Review.shape.decode_written Review.title _ keeps whole)

-- An answer that carries a patch which the validators do not take is not read.
theorem decoded_taken (apiVersion : ApiVersion) (response : Response) (review : Review) (text : String)
    (decoded : (Codec.decodeReview (Utf8.encode (Codec.encode .review (answerWith apiVersion response)))).outcome =
      .ok review) (carried : response.patch = some text) : Patch.Taken text := by
  have shown := (Codec.decode_shape_ok Review.shape Review.title
    (Utf8.encode (Codec.encode .review (answerWith apiVersion response))) review).mp decoded
  obtain ⟨json, parsed, read⟩ := (Shape.decode_ok _ _ _ _).mp shown.2
  obtain ⟨_, rfl⟩ := parsed_document_fits (Review.shape.write (answerWith apiVersion response)) json parsed
  rw [Json.restored_whole _ (answer_finite apiVersion response), answer_written] at read
  obtain ⟨whole, parts, _⟩ := (record_read _ _ _ _ _ review).mp read
  obtain ⟨version, kind, request, found, rest⟩ := whole
  obtain ⟨_, parts⟩ := (fields_read_cons _ _ _ _ _ _).mp parts
  obtain ⟨_, parts⟩ := (fields_read_cons _ _ _ _ _ _).mp parts
  obtain ⟨_, parts⟩ := (fields_read_cons _ _ _ _ _ _).mp parts
  have only : (Field.default "response" (none : Option Response)).keys = ["response"] := by decide +kernel
  obtain ⟨⟨own, located, content⟩ | ⟨missing, _⟩, _⟩ := (fields_read_single _ _ _ _ _ _ only).mp parts
  · cases located
    rcases (optional_read _ _ _).mp content with ⟨null, _⟩ | ⟨_, inner, read, _⟩
    · cases null
    · exact Response.reread_taken response inner text carried read
  · cases missing

-- The response that a decision function gives, as it is or read from a value.
def Gives (endpoint : Endpoint) (review : Review) (request : Request) (response : Response) : Prop :=
  ∃ verdict, (endpoint.judge review).outcome = .ok verdict ∧ endpoint.responseOf request verdict = .ok response

theorem error_acceptable (origin : Origin) (failure : Classified) : Acceptable
    (Codec.encode .review (errorReview origin failure)) (errorReview origin failure) :=
  answer_acceptable origin.apiVersion _ (Response.plain_readable _ rfl rfl fun _ given => by cases given; rfl)

theorem closing_acceptable (failures : Nat) (review : Review) (body : String)
    (sent : (closing failures review).2 = .review body) : body = Codec.encode .review review := by
  cases failures with
  | zero => exact (Answer.review.inj sent).symm
  | succ left => cases sent

theorem handled_acceptable (endpoint : Endpoint) (failures : Nat) (delivery : Delivery) (body : String)
    (sent : (endpoint.handle failures delivery).2.2 = .review body)
    (readable : ∀ review request response, (endpoint.receive delivery).outcome = .ok (review, request) →
      endpoint.Gives review request response → response.Readable) : ∃ review, Acceptable body review := by
  rw [handle_answer] at sent
  cases received : (endpoint.receive delivery).outcome with
  | error failure =>
    simp only [course, received, Course.close] at sent
    rw [closing_acceptable _ _ _ sent]
    exact ⟨_, error_acceptable _ failure⟩
  | ok pair =>
    obtain ⟨review, request⟩ := pair
    cases decided : (endpoint.decide review request).outcome with
    | error failure =>
      simp only [course, received, decided, Course.close] at sent
      rw [closing_acceptable _ _ _ sent]
      exact ⟨_, error_acceptable _ failure⟩
    | ok outgoing =>
      simp only [course, received, decided, Course.close] at sent
      split at sent
      · obtain ⟨verdict, response, judged, given, rfl⟩ := (decide_ok _ _ _ _).mp decided
        have fine := readable review request response received ⟨verdict, judged, given⟩
        rw [closing_acceptable _ _ _ sent]
        exact ⟨_, answer_acceptable review.apiVersion { response with uid := request.uid }
          ⟨fine.ruled, fine.taken, fine.short⟩⟩
      · rw [closing_acceptable _ _ _ sent]
        exact ⟨_, error_acceptable _ unencodable⟩

end Endpoint

/- The policies of the library. -/

namespace Policy

theorem allowed_readable : (allowed denied).Readable :=
  Response.plain_readable _ rfl rfl fun _ given => by cases given

theorem saying_readable (message : String) : (allowedSaying denied message).Readable :=
  Response.plain_readable _ rfl rfl fun _ given => by cases given; rfl

theorem eviction_taken (annotations : Option Labels) : Patch.Taken (evictionPatch annotations).encode := by
  refine (Patch.encode_taken _).mpr ?_
  rw [eviction_written]
  cases annotations <;> simp [evictionOperation, nestingRoom, Json.AllFit]

theorem marking_readable (annotations : Option Labels) : (allowed { denied with
    patch := some (evictionPatch annotations).encode, patchType := some .jsonPatch }).Readable where
  ruled := by
    have filled := Patch.taken_filled _ (eviction_taken annotations)
    simp [allowed, Response.patchRule, filled]
  taken := by
    rintro text ⟨⟩
    exact eviction_taken annotations
  short := by simp [allowed, denied]

theorem ingresses_readable (ignored : Namespaces) (request : Request) (response : Response)
    (answered : (denyIngresses ignored request).outcome = .ok response) : response.Readable := by
  unfold denyIngresses at answered
  dsimp only at answered
  split at answered
  · cases answered
    exact allowed_readable
  · obtain ⟨ingress, _, answered⟩ := (Told.bind_ok _ _ _).mp answered
    split at answered
    · obtain ⟨_, _, answered⟩ := (Told.bind_ok _ _ _).mp answered
      cases answered
      exact saying_readable _
    · cases answered

theorem load_balancers_readable (ignored : Namespaces) (setting : ProviderSetting) (request : Request)
    (response : Response) (answered : (denyPublicLoadBalancers ignored setting request).outcome = .ok response) :
    response.Readable := by
  unfold denyPublicLoadBalancers at answered
  dsimp only at answered
  split at answered
  · cases answered
    exact allowed_readable
  · obtain ⟨service, _, answered⟩ := (Told.bind_ok _ _ _).mp answered
    split at answered
    · cases answered
      exact allowed_readable
    · split at answered
      · cases answered
        exact saying_readable _
      · split at answered
        · cases answered
        · split at answered
          · obtain ⟨_, _, answered⟩ := (Told.bind_ok _ _ _).mp answered
            cases answered
          · cases answered
            exact allowed_readable

theorem public_services_readable (request : Request) (response : Response)
    (answered : (denyPublicServices request).outcome = .ok response) : response.Readable := by
  unfold denyPublicServices at answered
  split at answered
  · exact ingresses_readable _ _ _ answered
  · exact load_balancers_readable _ _ _ _ answered

theorem pod_annotations_readable (codec : Codec) (ignored : Namespaces) (required : Requirements) (request : Request)
    (response : Response) (answered : (enforcePodAnnotations codec ignored required request).outcome = .ok response) :
    response.Readable := by
  unfold enforcePodAnnotations at answered
  dsimp only at answered
  split at answered
  · cases answered
  · obtain ⟨resource, _, answered⟩ := (Told.bind_ok _ _ _).mp answered
    split at answered
    · cases answered
    · split at answered
      · cases answered
        exact saying_readable _
      · split at answered
        · cases answered
        · cases answered
          exact allowed_readable
        · obtain ⟨_, _, answered⟩ := (Told.bind_ok _ _ _).mp answered
          cases answered

theorem autoscaler_readable (ignored : Namespaces) (request : Request) (response : Response)
    (answered : (addAutoscalerMark ignored request).outcome = .ok response) : response.Readable := by
  unfold addAutoscalerMark at answered
  dsimp only at answered
  split at answered
  · cases answered
    exact saying_readable _
  · obtain ⟨pod, _, answered⟩ := (Told.bind_ok _ _ _).mp answered
    split at answered
    · cases answered
      exact saying_readable _
    · split at answered
      · cases answered
        exact allowed_readable
      · obtain ⟨_, _, answered⟩ := (Told.bind_ok _ _ _).mp answered
        cases answered
        exact marking_readable _

theorem decided_readable (codec : Codec) (policy : Policy) (review : Review) (response : Response)
    (decided : (policy.decide codec (some review)).outcome = .ok response) : response.Readable := by
  cases asked : review.request with
  | none => simp [decide, reviewed, asked] at decided
  | some request =>
    simp only [decide, reviewed, Option.bind_some, asked] at decided
    cases policy with
    | ingresses ignored => exact ingresses_readable _ _ _ decided
    | loadBalancers ignored provider => exact load_balancers_readable _ _ _ _ decided
    | publicServices => exact public_services_readable _ _ decided
    | podAnnotations ignored required => exact pod_annotations_readable _ _ _ _ _ decided
    | autoscaler ignored => exact autoscaler_readable _ _ _ decided

end Policy

namespace Endpoint

theorem policy_gives (codec : Codec) (policy : Policy) (limit : Nat) (review : Review) (request : Request)
    (response : Response) (given : (ofPolicy codec policy limit).Gives review request response) :
    response.Readable := by
  obtain ⟨verdict, judged, given⟩ := given
  obtain ⟨found, decided, same⟩ := (Told.bind_ok _ _ _).mp judged
  cases same
  cases given
  exact Policy.decided_readable codec policy review response decided

theorem given_accepted (endpoint : Endpoint) (validated : ∀ review response,
      (endpoint.judge review).outcome = .ok (.response response) → response.Accepted)
    (review : Review) (request : Request) (response : Response) (given : endpoint.Gives review request response) :
    response.Accepted := by
  obtain ⟨verdict, judged, given⟩ := given
  cases verdict with
  | nothing => cases given
  | response found =>
    cases given
    exact validated review response judged
  | value value =>
    simp only [responseOf, Shape.validate] at given
    cases read : Response.shape.read value with
    | ok found =>
      simp only [read, titled, Except.ok.injEq] at given
      exact .given value (given ▸ read)
    | error issues => simp [read, titled] at given

def addingOperation (value : Json) : Json := .object [("op", .string "add"), ("path", .string "/a"), ("value", value)]

def adding (value : Json) : Endpoint :=
  ⟨fun _ => pure (.value (.object (Patch.patchSource [addingOperation value]))), "add", askingBody.size⟩

def addingResponse (value : Json) : Response := Patch.patchResponse [⟨.add, "/a", value⟩]

theorem adding_read (value : Json) (settled : value.collapsed = value) :
    Response.shape.read (.object (Patch.patchSource [addingOperation value])) = .ok (addingResponse value) := by
  have read : Response.shape.read (.object (Patch.patchSource [addingOperation value])) =
      ruled Response.patchRule (addingResponse value.collapsed) := rfl
  have filled := Patch.encode_filled [⟨.add, "/a", value⟩]
  rw [read, settled, ruled_ok]
  simp [addingResponse, Patch.patchResponse, Response.patchRule, filled]

theorem adding_receives (value : Json) :
    ((adding value).receive ⟨[askingBody], false⟩).outcome = .ok (askingReview, askingRequest) :=
  (receive_received (approving askingBody) _ _ _).mpr asking_received

theorem adding_gives (value : Json) (settled : value.collapsed = value) (response : Response) :
    (adding value).Gives askingReview askingRequest response ↔ response = addingResponse value := by
  have valid : Response.shape.validate Response.title (.object (Patch.patchSource [addingOperation value])) =
      .ok (addingResponse value) := by
    rw [Shape.validate, adding_read value settled]
    rfl
  constructor
  · rintro ⟨verdict, judged, given⟩
    cases judged
    simp only [responseOf, valid] at given
    exact (Except.ok.inj given).symm
  · rintro rfl
    exact ⟨_, rfl, by simp only [responseOf, valid]⟩

theorem adding_answers (value : Json) (settled : value.collapsed = value) :
    ((adding value).handle 0 ⟨[askingBody], false⟩).2.2 =
      .review (Codec.encode .review (answerWith .v1 { addingResponse value with uid := "a1" })) := by
  obtain ⟨verdict, judged, given⟩ := (adding_gives value settled _).mpr rfl
  have decided := (decide_ok (adding value) askingReview askingRequest _).mpr ⟨verdict, _, judged, given, rfl⟩
  rw [handle_encoded _ _ _ _ _ (adding_receives value) decided]
  rfl

def evictionBody : ByteArray := Utf8.encode ((Policy.podSource Policy.namedPod).text Json.compact)

-- A value that nests as deep as is wanted.
def nested : Nat → Json
  | 0 => .int 0
  | depth + 1 => .array [nested depth]

theorem nested_collapsed (depth : Nat) : (nested depth).collapsed = nested depth := by
  induction depth with
  | zero => rfl
  | succ depth ih => rw [nested, Json.collapsed, Json.collapsedItems, Json.collapsedItems, ih]

theorem nested_fits (depth room : Nat) (fits : (nested depth).Fits room) : depth ≤ room := by
  induction depth generalizing room with
  | zero => exact Nat.zero_le room
  | succ depth ih =>
    cases fits with
    | array room items every => exact Nat.succ_le_succ (ih room (every _ List.mem_cons_self))

end Endpoint
end Gatehouse
