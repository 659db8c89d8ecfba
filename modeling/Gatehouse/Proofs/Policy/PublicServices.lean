import Gatehouse.Proofs.Policy.LoadBalancer
import Gatehouse.Proofs.Relocation

/- The policy on public services is the two policies that it is made of, both asked about every review, and it exempts
   no namespace: where an object is has no part in what is decided. -/
namespace Gatehouse.Policy

/- The policies of which it is made -/

-- A computation and another one that goes on alike from what it has in common with the first.
theorem alike_bind {α β κ : Type} (look : α → κ) (first other : Told Refusal α) (next later : α → Told Refusal β)
    (same : first.outcome.map look = other.outcome.map look)
    (goes : ∀ found seen, look found = look seen → (next found).outcome = (later seen).outcome) :
    (first >>= next).outcome = (other >>= later).outcome := by
  show (first.andThen next).outcome = (other.andThen later).outcome
  rw [Told.andThen, Told.andThen]
  cases here : first.outcome with
  | error failure =>
    rw [here] at same
    cases there : other.outcome with
    | error more =>
      rw [there] at same
      cases same
      rfl
    | ok found =>
      rw [there] at same
      cases same
  | ok found =>
    rw [here] at same
    cases there : other.outcome with
    | error more =>
      rw [there] at same
      cases same
    | ok seen =>
      rw [there] at same
      exact goes found seen (Except.ok.inj same)

theorem object_as_alike (type : ResourceClass) (request other : Request)
    (same : (Codec.decodeObjectAs type request).outcome.map Object.unplaced =
      (Codec.decodeObjectAs type other).outcome.map Object.unplaced) :
    (objectAs type request).outcome.map Object.unplaced = (objectAs type other).outcome.map Object.unplaced := by
  have lifted (told : Told DecodeFailure (Object type.Spec)) :
      (told.mapError Refusal.undecodable).outcome.map Object.unplaced =
        (told.outcome.map Object.unplaced).mapError .undecodable := by
    rw [Told.mapError]
    cases told.outcome <;> rfl
  rw [objectAs, objectAs, lifted, lifted, same]

theorem relocated_kind (request other : Request) (relocated : Relocated request other) : other.kind = request.kind :=
  (congrArg Request.kind relocated.same :)

theorem ingresses_relocated (request other : Request) (relocated : Relocated request other) :
    (denyIngresses [] request).outcome = (denyIngresses [] other).outcome := by
  have kind := relocated_kind request other relocated
  rw [denyIngresses, denyIngresses, kind]
  by_cases ingress : request.kind.kind = "Ingress"
  · simp only [ingress, bne_self_eq_false, Bool.false_eq_true, if_false]
    refine alike_bind Object.unplaced _ _ _ _ ?_ fun found seen _ => rfl
    exact object_as_alike .ingress request other (relocated_decoded _ _ _ request other relocated)
  · have different : (request.kind.kind != "Ingress") = true := by simpa using ingress
    simp only [different, if_true]

theorem load_balancers_relocated (request other : Request) (relocated : Relocated request other) :
    (denyPublicLoadBalancers [] (.known .gcp) request).outcome =
      (denyPublicLoadBalancers [] (.known .gcp) other).outcome := by
  have kind := relocated_kind request other relocated
  rw [denyPublicLoadBalancers, denyPublicLoadBalancers, kind]
  by_cases service : request.kind.kind = "Service"
  · simp only [service, bne_self_eq_false, Bool.false_eq_true, if_false]
    refine alike_bind Object.unplaced _ _ _ _ ?_ fun found seen same => ?_
    · exact object_as_alike .service request other (relocated_decoded _ _ _ request other relocated)
    · have spec : found.spec = seen.spec := (congrArg Object.spec same :)
      have annotations : found.annotations = seen.annotations := (congrArg Object.annotations same :)
      rw [spec, annotations]
      by_cases balanced : seen.spec.type = some "LoadBalancer"
      · simp only [balanced, bne_self_eq_false, Bool.false_eq_true, if_false, List.contains_nil,
          ProviderSetting.resolve]
        by_cases marked : lastOf seen.annotations CloudProvider.gcp.marker.1 = some CloudProvider.gcp.marker.2
        · simp only [marked, bne_self_eq_false, Bool.false_eq_true, if_false]
        · have unmarked : (lastOf seen.annotations CloudProvider.gcp.marker.1 != some CloudProvider.gcp.marker.2) =
            true := by simpa using marked
          simp only [unmarked, if_true]
          rfl
      · have different : (seen.spec.type != some "LoadBalancer") = true := by simpa using balanced
        simp only [different, if_true]
  · have different : (request.kind.kind != "Service") = true := by simpa using service
    simp only [different, if_true]

/- Together -/

-- Whether the outcome of a decision lets the object in.
def Allows (outcome : Except Refusal Response) : Prop := ∃ response, outcome = .ok response ∧ response.allowed = true

theorem other_ingress_admitted (ignored : Namespaces) (request : Request) (other : request.kind.kind ≠ "Ingress") :
    (denyIngresses ignored request).outcome = .ok admitted := by
  have different : (request.kind.kind != "Ingress") = true := by simpa using other
  simp only [denyIngresses, different, if_true]
  rfl

theorem public_ingress (request : Request) (kind : request.kind.kind = "Ingress") :
    denyPublicServices request = denyIngresses [] request := by
  simp only [denyPublicServices, kind, beq_self_eq_true, if_true]

theorem public_other (request : Request) (kind : request.kind.kind ≠ "Ingress") :
    denyPublicServices request = denyPublicLoadBalancers [] (.known .gcp) request := by
  have other : (request.kind.kind == "Ingress") = false := by simpa using kind
  simp only [denyPublicServices, other, Bool.false_eq_true, if_false]

theorem public_services_relocated (request other : Request) (relocated : Relocated request other) :
    (denyPublicServices request).outcome = (denyPublicServices other).outcome := by
  have kind := relocated_kind request other relocated
  by_cases ingress : request.kind.kind = "Ingress"
  · rw [public_ingress request ingress, public_ingress other (by rw [kind, ingress]),
      ingresses_relocated request other relocated]
  · rw [public_other request ingress, public_other other (by rwa [kind]),
      load_balancers_relocated request other relocated]

/-- The whole and its parts: it allows what both allow, and it fails as the one part that fails. -/
structure Conjoined (whole left right : Except Refusal Response) : Prop where
  allows : Allows whole ↔ Allows left ∧ Allows right
  fails : ∀ refusal, whole = .error refusal ↔
    (left = .error refusal ∧ Allows right) ∨ (Allows left ∧ right = .error refusal)

theorem conjoined_left (outcome : Except Refusal Response) (response : Response) (allows : response.allowed = true) :
    Conjoined outcome outcome (.ok response) := by
  have other : Allows (.ok response) := ⟨response, rfl, allows⟩
  exact ⟨by simp [other], by simp [other]⟩

theorem conjoined_right (outcome : Except Refusal Response) (response : Response) (allows : response.allowed = true) :
    Conjoined outcome (.ok response) outcome := by
  have other : Allows (.ok response) := ⟨response, rfl, allows⟩
  exact ⟨by simp [other], by simp [other]⟩

theorem public_services_conjoined (codec : Codec) :
    (∀ review request, review.request = some request → Conjoined (decide codec .publicServices (some review)).outcome
      (decide codec (.ingresses []) (some review)).outcome
      (decide codec (.loadBalancers [] (.known .gcp)) (some review)).outcome) ∧
    (∀ review request other, review.request = some request → Relocated request other →
      (decide codec .publicServices (some { review with request := some other })).outcome =
        (decide codec .publicServices (some review)).outcome) := by
  constructor
  · intro review request asked
    rw [decide_asked codec _ review request asked, decide_asked codec _ review request asked,
      decide_asked codec _ review request asked, decision, decision, decision]
    by_cases kind : request.kind.kind = "Ingress"
    · have other : request.kind.kind ≠ "Service" := by simp [kind]
      rw [public_ingress request kind, other_kind_admitted [] _ request other]
      exact conjoined_left _ admitted rfl
    · rw [public_other request kind, other_ingress_admitted [] request kind]
      exact conjoined_right _ admitted rfl
  · intro review request other asked relocated
    rw [decide_asked codec _ review request asked, decide_asked codec _ _ other rfl]
    exact (public_services_relocated request other relocated).symm

/- A public load balancer that is moved to another namespace. -/

def exposedService (nameSpace : String) : Members :=
  [("metadata", .object [("name", .string "web"), ("namespace", .string nameSpace)]),
    ("spec", .object [("type", .string "LoadBalancer")])]

def requestIn (nameSpace : String) : Request :=
  { requestFor "Service" (exposedService nameSpace) with nameSpace := some nameSpace }

def reviewIn (nameSpace : String) : Review := ⟨.v1, "AdmissionReview", some (requestIn nameSpace), none⟩

theorem service_relocated (here there : String) : Relocated (requestIn here) (requestIn there) := by
  refine ⟨rfl, .some (.placed _ _ _ _ ⟨rfl, ?_⟩ (.kept _ _ _ .nil))⟩
  intro entry member place
  simp only [List.cons_append, List.nil_append, List.mem_cons, List.not_mem_nil, or_false] at member
  rcases member with rfl | rfl | rfl | rfl
  · exact absurd place (by decide)
  · exact .text here
  · exact absurd place (by decide)
  · exact .text there

theorem exposed_denied : (decide .standard .publicServices (some (reviewIn "default"))).outcome =
    .error (.violation (.publicLoadBalancer "Service" CloudProvider.gcp.marker.1 CloudProvider.gcp.marker.2)) := by
  have fits : (Json.object (exposedService "default")).Fits nestingRoom := by
    simp [exposedService, nestingRoom, Json.AllFit]
  have decoded : (Codec.decodeObjectAs .service (requestIn "default")).outcome =
      .ok ⟨none, none, ⟨some "web", none, some "default", none, none, none⟩, some "LoadBalancer", none, none, none,
        none⟩ :=
    request_decodes "Service" (exposedService "default") .service _ (by simp [exposedService]) fits rfl
  rw [decide_asked .standard _ _ (requestIn "default") rfl, decision, public_other _ (by decide),
    exposed_resolved [] (.known .gcp) _ _ ⟨rfl, decoded, rfl, by simp⟩ .gcp rfl]
  rfl

theorem moved_service_denied : Relocated (requestIn "default") (requestIn "kube-system") ∧
    Conjoined (decide .standard .publicServices (some (reviewIn "default"))).outcome
      (decide .standard (.ingresses []) (some (reviewIn "default"))).outcome
      (decide .standard (.loadBalancers [] (.known .gcp)) (some (reviewIn "default"))).outcome ∧
    (decide .standard .publicServices (some (reviewIn "kube-system"))).outcome =
      .error (.violation (.publicLoadBalancer "Service" CloudProvider.gcp.marker.1 CloudProvider.gcp.marker.2)) := by
  have relocated := service_relocated "default" "kube-system"
  obtain ⟨conjoined, unmoved⟩ := public_services_conjoined .standard
  exact ⟨relocated, conjoined _ _ rfl, (unmoved (reviewIn "default") _ _ rfl relocated).trans exposed_denied⟩

end Gatehouse.Policy
