import Gatehouse.Endpoint.OfPolicy
import Gatehouse.Proofs.Endpoint.FailClosed
import Gatehouse.Proofs.Policy.Basic
import Gatehouse.Proofs.Submission

/- Nothing is admitted unread. A request whose object is missing, empty or malformed is refused by every policy that
   has to look at the object, whatever the policy would have allowed without looking; the refusal comes before any
   question about a namespace, an annotation or a provider. -/
namespace Gatehouse

/- The answer to a decision that failed to decode -/

namespace Endpoint

theorem asked_undecodable (endpoint : Endpoint) (review : Review) (request : Request) (failure : DecodeFailure)
    (judged : (endpoint.judge review).outcome = .error (.undecodable failure)) :
    ∃ debug, (endpoint.decide review request).outcome = .error ⟨false, failure.message, debug⟩ := by
  have asked : (endpoint.ask review request).outcome = .error ⟨false, failure.message,
      (Refusal.undecodable failure).name ++ " (kind: " ++ request.kind.kind ++ ")"⟩ := by
    simp only [ask, judged, classify]
    rfl
  exact ⟨_, (Told.bind_error _ _ _).mpr (.inl asked)⟩

theorem undecodable_answer (endpoint : Endpoint) (failures : Nat) (delivery : Delivery) (review : Review)
    (request : Request) (failure : DecodeFailure) (received : Received endpoint delivery review request)
    (judged : (endpoint.judge review).outcome = .error (.undecodable failure)) :
    (endpoint.handle failures delivery).2.2 = (closing failures (answerWith review.apiVersion
      ⟨request.uid, false, some ⟨failure.message, none, none⟩, none, none, none⟩)).2 := by
  obtain ⟨debug, decided⟩ := asked_undecodable endpoint review request failure judged
  have came : endpoint.course delivery = .refused (originOf review request) ⟨false, failure.message, debug⟩ := by
    simp only [course, (receive_received _ _ _ _).mpr received, decided]
  rw [handle_answer, came]
  rfl

end Endpoint

namespace Policy

-- The kinds whose objects a policy looks at, with the class that they are read as.
inductive Reads (codec : Codec) : Policy → String → ResourceClass → Prop where
  | ingress (ignored : Namespaces) : Reads codec (.ingresses ignored) "Ingress" .ingress
  | service (ignored : Namespaces) (setting : ProviderSetting) :
    Reads codec (.loadBalancers ignored setting) "Service" .service
  | publicIngress : Reads codec .publicServices "Ingress" .ingress
  | publicService : Reads codec .publicServices "Service" .service
  | bearer (ignored : Namespaces) (required : Requirements) (kind : String) (type : ResourceClass)
    (listed : kind ∈ podKinds) (registered : codec.scheme.lookup kind = some type) :
    Reads codec (.podAnnotations ignored required) kind type
  | pod (ignored : Namespaces) : Reads codec (.autoscaler ignored) "Pod" .pod

-- A request without an object of a class: there is none, there is nothing in it, or it is not one of the class.
inductive Void (type : ResourceClass) (request : Request) : Prop where
  | missing (absent : request.object = none)
  | empty (bare : request.object = some [])
  | invalid (members : Members) (issues : List Issue) (submitted : request.object = some members)
    (refused : type.shape.read (.object members) = .error issues)

theorem void_undecoded (type : ResourceClass) (request : Request) (void : Void type request) :
    ∃ failure, (Codec.decodeObjectAs type request).outcome = .error failure := by
  cases decoded : (Codec.decodeObjectAs type request).outcome with
  | error failure => exact ⟨failure, rfl⟩
  | ok object =>
    obtain ⟨found, submitted, nonempty, read⟩ := decoded_as_submitted type request object decoded
    cases void with
    | missing absent =>
      rw [absent] at submitted
      cases submitted
    | empty bare =>
      rw [bare] at submitted
      cases submitted
      exact absurd rfl nonempty
    | invalid members issues present refused =>
      rw [present] at submitted
      cases submitted
      rw [refused] at read
      cases read

section

variable (request : Request) (failure : DecodeFailure)

theorem object_lost {α : Type} (type : ResourceClass) (next : Object type.Spec → Told Refusal α)
    (decoded : (Codec.decodeObjectAs type request).outcome = .error failure) :
    (objectAs type request >>= next).outcome = .error (.undecodable failure) :=
  (Told.bind_error _ _ _).mpr (.inl ((Told.map_error_error _ _ _).mpr ⟨failure, decoded, rfl⟩))

theorem decode_object_lost (codec : Codec) (type : ResourceClass)
    (registered : codec.scheme.lookup request.kind.kind = some type)
    (decoded : (Codec.decodeObjectAs type request).outcome = .error failure) :
    (codec.decodeObject request).outcome = .error (.undecodable failure) := by
  rw [Codec.decodeObject, registered]
  exact (Told.bind_error _ _ _).mpr (.inl ((Told.map_error_error _ _ _).mpr ⟨failure, decoded, rfl⟩))

-- One step of each policy up to the object that it looks at.

theorem ingresses_lost (ignored : Namespaces) (kind : request.kind.kind = "Ingress")
    (decoded : (Codec.decodeObjectAs .ingress request).outcome = .error failure) :
    (denyIngresses ignored request).outcome = .error (.undecodable failure) := by
  simp only [denyIngresses, kind, bne_self_eq_false, Bool.false_eq_true, if_false]
  exact object_lost request failure .ingress _ decoded

theorem load_balancers_lost (ignored : Namespaces) (setting : ProviderSetting) (kind : request.kind.kind = "Service")
    (decoded : (Codec.decodeObjectAs .service request).outcome = .error failure) :
    (denyPublicLoadBalancers ignored setting request).outcome = .error (.undecodable failure) := by
  simp only [denyPublicLoadBalancers, kind, bne_self_eq_false, Bool.false_eq_true, if_false]
  exact object_lost request failure .service _ decoded

theorem pod_annotations_lost (codec : Codec) (ignored : Namespaces) (required : Requirements) (type : ResourceClass)
    (kind : request.kind.kind ∈ podKinds) (registered : codec.scheme.lookup request.kind.kind = some type)
    (decoded : (Codec.decodeObjectAs type request).outcome = .error failure) :
    (enforcePodAnnotations codec ignored required request).outcome = .error (.undecodable failure) := by
  have known : (!podKinds.contains request.kind.kind) = false := by simpa using kind
  simp only [enforcePodAnnotations, known, Bool.false_eq_true, if_false]
  exact (Told.bind_error _ _ _).mpr (.inl (decode_object_lost request failure codec type registered decoded))

theorem autoscaler_lost (ignored : Namespaces) (kind : request.kind.kind = "Pod")
    (decoded : (Codec.decodeObjectAs .pod request).outcome = .error failure) :
    (addAutoscalerMark ignored request).outcome = .error (.undecodable failure) := by
  simp only [addAutoscalerMark, kind, bne_self_eq_false, Bool.false_eq_true, if_false]
  exact object_lost request failure .pod _ decoded

theorem decision_lost (codec : Codec) (policy : Policy) (kind : String) (type : ResourceClass)
    (same : request.kind.kind = kind) (reads : Reads codec policy kind type)
    (decoded : (Codec.decodeObjectAs type request).outcome = .error failure) :
    (policy.decision codec request).outcome = .error (.undecodable failure) := by
  cases reads with
  | ingress ignored => exact ingresses_lost request failure ignored same decoded
  | service ignored setting => exact load_balancers_lost request failure ignored setting same decoded
  | publicIngress =>
    simp only [decision, denyPublicServices, same, beq_self_eq_true, if_true]
    exact ingresses_lost request failure [] same decoded
  | publicService =>
    have other : ("Service" == "Ingress") = false := by decide
    simp only [decision, denyPublicServices, same, other, Bool.false_eq_true, if_false]
    exact load_balancers_lost request failure [] (.known .gcp) same decoded
  | bearer ignored required _ _ listed registered =>
    subst same
    exact pod_annotations_lost request failure codec ignored required type listed registered decoded
  | pod ignored => exact autoscaler_lost request failure ignored same decoded

end

-- In the document of a request, an object that is absent, null or without members.
theorem void_source (type : ResourceClass) (entries : Members) (request : Request)
    (read : Request.shape.read (.object entries) = .ok request)
    (bare : lastOf entries "object" = none ∨ lastOf entries "object" = some .null ∨
      lastOf entries "object" = some (.object [])) : Void type request := by
  obtain ⟨_, same, found⟩ := request_object_read _ request read
  cases same
  have keys : (Field.default "object" (none : Option Members)).keys = ["object"] := by decide
  rcases bare with absent | null | empty
  · have nowhere := find_none (Field.default "object" (none : Option Members)) entries (by simpa [keys] using absent)
    rcases found with ⟨name, json, located, _⟩ | ⟨_, absent⟩
    · rw [nowhere] at located
      cases located
    · exact .missing (Option.some.inj absent).symm
  · rw [find_own _ _ _ null] at found
    rcases found with ⟨_, _, located, taken⟩ | ⟨located, _⟩
    · cases located
      exact .missing (Except.ok.inj taken).symm
    · cases located
  · rw [find_own _ _ _ empty] at found
    rcases found with ⟨_, _, located, taken⟩ | ⟨located, _⟩
    · cases located
      exact .empty (Except.ok.inj taken).symm
    · cases located

-- A refusal by a policy, with the denial that it is answered with wherever the policy is served.
structure RefusedUnread (codec : Codec) (policy : Policy) (review : Review) (request : Request)
    (failure : DecodeFailure) : Prop where
  raised : (policy.decide codec (some review)).outcome = .error (.undecodable failure)
  denied : ∀ limit delivery, Endpoint.Received (Endpoint.ofPolicy codec policy limit) delivery review request →
    ((Endpoint.ofPolicy codec policy limit).handle 0 delivery).2.2 = .review (Codec.encode .review
      (Endpoint.answerWith review.apiVersion
        ⟨request.uid, false, some ⟨failure.message, none, none⟩, none, none, none⟩))
  lost : ∀ limit failures delivery, Endpoint.Received (Endpoint.ofPolicy codec policy limit) delivery review request →
    ((Endpoint.ofPolicy codec policy limit).handle (failures + 1) delivery).2.2 = .failed

theorem void_objects_refused (codec : Codec) :
    (∀ policy type review request, review.request = some request → Reads codec policy request.kind.kind type →
      Void type request → ∃ failure, RefusedUnread codec policy review request failure) ∧
    (∀ type entries request, Request.shape.read (.object entries) = .ok request →
      (lastOf entries "object" = none ∨ lastOf entries "object" = some .null ∨
        lastOf entries "object" = some (.object [])) → Void type request) ∧
    (∀ kind ∈ podKinds, ∃ type, Codec.standard.scheme.lookup kind = some type ∧ type.name = kind) := by
  refine ⟨?_, void_source, ?_⟩
  · intro policy type review request asked reads void
    obtain ⟨failure, decoded⟩ := void_undecoded type request void
    have raised : (policy.decide codec (some review)).outcome = .error (.undecodable failure) := by
      rw [decide_asked codec policy review request asked]
      exact decision_lost request failure codec policy _ type rfl reads decoded
    have judged (limit : Nat) :
        ((Endpoint.ofPolicy codec policy limit).judge review).outcome = .error (.undecodable failure) :=
      (Told.bind_error _ _ _).mpr (.inl raised)
    refine ⟨failure, raised, ?_, ?_⟩
    · intro limit delivery received
      exact Endpoint.undecodable_answer _ 0 delivery review request failure received (judged limit)
    · intro limit failures delivery received
      exact Endpoint.undecodable_answer _ (failures + 1) delivery review request failure received (judged limit)
  · decide

/- A Pod with nothing in it, in an exempt namespace, where no annotation is required. -/

def voidSource : Json :=
  .object [("request", .object [("uid", .string "a1"), ("kind", .object [("kind", .string "Pod")]),
    ("namespace", .string "default"), ("object", .object [])])]

def voidRequest : Request :=
  ⟨"a1", ⟨"", "", "Pod"⟩, none, none, none, none, some "default", none, none, some [], none, none⟩

def lenientPolicy : Policy := .podAnnotations ["default"] []

theorem void_pod_received : Endpoint.Received (Endpoint.ofPolicy .standard lenientPolicy
      (Utf8.encode (voidSource.text Json.compact)).size) ⟨[Utf8.encode (voidSource.text Json.compact)], false⟩
    ⟨.v1, Review.title, some voidRequest, none⟩ voidRequest := by
  have fits : voidSource.Fits nestingRoom := by simp [voidSource, nestingRoom, Json.AllFit]
  exact Endpoint.written_received _ voidSource _ voidRequest fits rfl rfl rfl (Nat.le_refl _)

theorem void_pod_refused : ∃ failure,
    (lenientPolicy.decide .standard (some ⟨.v1, Review.title, some voidRequest, none⟩)).outcome =
      .error (.undecodable failure) ∧
    ((Endpoint.ofPolicy .standard lenientPolicy (Utf8.encode (voidSource.text Json.compact)).size).handle 0
      ⟨[Utf8.encode (voidSource.text Json.compact)], false⟩).2.2 = .review (Codec.encode .review
        (Endpoint.answerWith .v1 ⟨"a1", false, some ⟨failure.message, none, none⟩, none, none, none⟩)) := by
  have reads : Reads .standard lenientPolicy "Pod" .pod := .bearer _ _ _ _ (by decide) (by decide)
  obtain ⟨failure, refused⟩ := (void_objects_refused .standard).1 lenientPolicy .pod
    ⟨.v1, Review.title, some voidRequest, none⟩ voidRequest rfl reads (.empty rfl)
  exact ⟨failure, refused.raised, refused.denied _ _ void_pod_received⟩

end Policy
end Gatehouse
