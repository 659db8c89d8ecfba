import Gatehouse.Proofs.Policy.Basic

/- What the list of exempt namespaces does. A policy asks it one question, about an object that the policy applies to:
   whether the namespace of the object is on it, letter by letter. Whoever is on it is let in before anything else is
   looked at; for everyone else the policy decides as if the list were empty. -/
namespace Gatehouse.Policy

-- The policy with another list of exempt namespaces, where it has one.
def exempting (ignored : Namespaces) : Policy → Policy
  | .ingresses _ => .ingresses ignored
  | .loadBalancers _ setting => .loadBalancers ignored setting
  | .publicServices => .publicServices
  | .podAnnotations _ required => .podAnnotations ignored required
  | .autoscaler _ => .autoscaler ignored

-- Where an object is: in the namespace that it names, else in that of the request, else in the empty one.
inductive InNamespace (request : Request) (metadata : Metadata) : String → Prop where
  | own (nameSpace : String) (named : metadata.nameSpace = some nameSpace) (filled : nameSpace ≠ "") :
    InNamespace request metadata nameSpace
  | asked (nameSpace : String) (unnamed : metadata.nameSpace = none ∨ metadata.nameSpace = some "")
    (given : request.nameSpace = some nameSpace) : InNamespace request metadata nameSpace
  | nowhere (unnamed : metadata.nameSpace = none ∨ metadata.nameSpace = some "") (absent : request.nameSpace = none) :
    InNamespace request metadata ""

-- An object that a policy applies to, by the namespace that it is in.
inductive AppliesIn (codec : Codec) (request : Request) : Policy → String → Prop where
  | ingress (ignored : Namespaces) (ingress : Object IngressSpec) (nameSpace : String)
    (kind : request.kind.kind = "Ingress") (decoded : (Codec.decodeObjectAs .ingress request).outcome = .ok ingress)
    (placed : InNamespace request ingress.metadata nameSpace) : AppliesIn codec request (.ingresses ignored) nameSpace
  | loadBalancer (ignored : Namespaces) (setting : ProviderSetting) (service : Object ServiceSpec) (nameSpace : String)
    (kind : request.kind.kind = "Service") (decoded : (Codec.decodeObjectAs .service request).outcome = .ok service)
    (balanced : service.spec.type = some "LoadBalancer") (placed : InNamespace request service.metadata nameSpace) :
    AppliesIn codec request (.loadBalancers ignored setting) nameSpace
  | bearer (ignored : Namespaces) (required : Requirements) (resource : Resource) (annotations : Labels)
    (nameSpace : String) (kind : request.kind.kind ∈ podKinds)
    (decoded : (codec.decodeObject request).outcome = .ok resource)
    (bears : resource.podAnnotations? = some annotations)
    (placed : InNamespace request resource.object.metadata nameSpace) :
    AppliesIn codec request (.podAnnotations ignored required) nameSpace
  | pod (ignored : Namespaces) (pod : Object PodSpec) (nameSpace : String) (kind : request.kind.kind = "Pod")
    (decoded : (Codec.decodeObjectAs .pod request).outcome = .ok pod)
    (placed : InNamespace request pod.metadata nameSpace) : AppliesIn codec request (.autoscaler ignored) nameSpace

theorem named_namespace {σ : Type} (request : Request) (object : Object σ) (nameSpace : String)
    (named : object.metadata.nameSpace = some nameSpace) (filled : nameSpace ≠ "") :
    effectiveNamespace request object = nameSpace := by
  rw [effectiveNamespace, Object.nameSpace, named, Option.getD_some]
  split
  · exact absurd rfl filled
  · rfl

theorem unnamed_namespace {σ : Type} (request : Request) (object : Object σ)
    (unnamed : object.metadata.nameSpace = none ∨ object.metadata.nameSpace = some "") :
    effectiveNamespace request object = request.nameSpace.getD "" := by
  have blank : object.nameSpace = "" := by
    rcases unnamed with none | empty
    · rw [Object.nameSpace, none, Option.getD_none]
    · rw [Object.nameSpace, empty, Option.getD_some]
  simp only [effectiveNamespace, blank]

theorem in_namespace {σ : Type} (request : Request) (object : Object σ) (nameSpace : String) :
    InNamespace request object.metadata nameSpace ↔ effectiveNamespace request object = nameSpace := by
  constructor
  · intro placed
    cases placed with
    | own nameSpace named filled => exact named_namespace request object nameSpace named filled
    | asked nameSpace unnamed given => rw [unnamed_namespace request object unnamed, given, Option.getD_some]
    | nowhere unnamed absent => rw [unnamed_namespace request object unnamed, absent, Option.getD_none]
  · rintro rfl
    by_cases unnamed : object.metadata.nameSpace = none ∨ object.metadata.nameSpace = some ""
    · rw [unnamed_namespace request object unnamed]
      cases given : request.nameSpace with
      | none => exact .nowhere unnamed given
      | some nameSpace => exact .asked nameSpace unnamed given
    · obtain ⟨nameSpace, named⟩ := Option.ne_none_iff_exists'.mp fun missing => unnamed (.inl missing)
      have filled : nameSpace ≠ "" := fun empty => unnamed (.inr (empty ▸ named))
      rw [named_namespace request object nameSpace named filled]
      exact .own nameSpace named filled

theorem placed_once {σ : Type} (request : Request) (object : Object σ) (left right : String)
    (placed : InNamespace request object.metadata left) (again : InNamespace request object.metadata right) :
    left = right :=
  ((in_namespace request object left).mp placed).symm.trans ((in_namespace request object right).mp again)

-- A policy applies to one object of a request, in one place.
theorem applies_once (codec : Codec) (request : Request) (policy : Policy) (left right : String)
    (applies : AppliesIn codec request policy left) (again : AppliesIn codec request policy right) : left = right := by
  cases applies with
  | ingress _ ingress _ _ decoded placed =>
    cases again with
    | ingress _ other _ _ found here =>
      obtain rfl : ingress = other := Except.ok.inj (decoded.symm.trans found)
      exact placed_once request ingress left right placed here
  | loadBalancer _ _ service _ _ decoded _ placed =>
    cases again with
    | loadBalancer _ _ other _ _ found _ here =>
      obtain rfl : service = other := Except.ok.inj (decoded.symm.trans found)
      exact placed_once request service left right placed here
  | bearer _ _ resource _ _ _ decoded _ placed =>
    cases again with
    | bearer _ _ other _ _ _ found _ here =>
      obtain rfl : resource = other := Except.ok.inj (decoded.symm.trans found)
      exact placed_once request resource.object left right placed here
  | pod _ pod _ _ decoded placed =>
    cases again with
    | pod _ other _ _ found here =>
      obtain rfl : pod = other := Except.ok.inj (decoded.symm.trans found)
      exact placed_once request pod left right placed here

/- On the list -/

theorem whitelisted_response (nameSpace : String) : allowedWhitelisted nameSpace =
    ⟨"", true, some ⟨"allowing admission: " ++ nameSpace ++ " namespace is whitelisted", none, none⟩, none, none,
      none⟩ := by
  simp [allowedWhitelisted, allowedSaying, denied, Message.withValue, Message.pieces, String.join]

theorem listed_outcome (codec : Codec) (policy : Policy) (ignored : Namespaces) (request : Request)
    (nameSpace : String) (applies : AppliesIn codec request policy nameSpace) (listed : nameSpace ∈ ignored) :
    ((policy.exempting ignored).decision codec request).outcome = .ok (allowedWhitelisted nameSpace) := by
  cases applies with
  | ingress _ ingress _ kind decoded placed =>
    have here := (in_namespace request ingress nameSpace).mp placed
    simp only [exempting, decision, denyIngresses, kind, bne_self_eq_false, Bool.false_eq_true, if_false]
    rw [object_then .ingress request ingress _ decoded]
    simp only [here, List.contains_eq_mem, listed, decide_true, if_true]
    rfl
  | loadBalancer _ setting service _ kind decoded balanced placed =>
    have here := (in_namespace request service nameSpace).mp placed
    simp only [exempting, decision, denyPublicLoadBalancers, kind, bne_self_eq_false, Bool.false_eq_true, if_false]
    rw [object_then .service request service _ decoded]
    simp only [here, balanced, bne_self_eq_false, Bool.false_eq_true, if_false, List.contains_eq_mem, listed,
      decide_true, if_true]
    rfl
  | bearer _ required resource annotations _ kind decoded bears placed =>
    have here := (in_namespace request resource.object nameSpace).mp placed
    have known : (!podKinds.contains request.kind.kind) = false := by simpa using kind
    simp only [exempting, decision, enforcePodAnnotations, known, Bool.false_eq_true, if_false]
    rw [Told.bind_found _ _ resource decoded]
    simp only [bears, here, List.contains_eq_mem, listed, decide_true, if_true]
    rfl
  | pod _ pod _ kind decoded placed =>
    have here := (in_namespace request pod nameSpace).mp placed
    simp only [exempting, decision, addAutoscalerMark, kind, bne_self_eq_false, Bool.false_eq_true, if_false]
    rw [object_then .pod request pod _ decoded]
    simp only [here, List.contains_eq_mem, listed, decide_true, if_true]
    rfl

/- Off the list -/

section

variable (codec : Codec) (ignored : Namespaces) (request : Request)

-- No object that the policy applies to is in a namespace of the list.
def Unlisted (policy : Policy) : Prop := ∀ nameSpace, AppliesIn codec request policy nameSpace → nameSpace ∉ ignored

theorem ingresses_unlisted (own : Namespaces) (unlisted : Unlisted codec ignored request (.ingresses own)) :
    denyIngresses ignored request = denyIngresses [] request := by
  rw [denyIngresses, denyIngresses]
  by_cases kind : request.kind.kind = "Ingress"
  · simp only [kind, bne_self_eq_false, Bool.false_eq_true, if_false]
    apply object_congr
    intro ingress decoded
    have absent := unlisted _ (.ingress own ingress _ kind decoded ((in_namespace _ _ _).mpr rfl))
    simp only [List.contains_eq_mem, absent, List.not_mem_nil]
  · have other : (request.kind.kind != "Ingress") = true := by simpa using kind
    simp only [other, if_true]

theorem load_balancers_unlisted (own : Namespaces) (setting : ProviderSetting)
    (unlisted : Unlisted codec ignored request (.loadBalancers own setting)) :
    denyPublicLoadBalancers ignored setting request = denyPublicLoadBalancers [] setting request := by
  rw [denyPublicLoadBalancers, denyPublicLoadBalancers]
  by_cases kind : request.kind.kind = "Service"
  · simp only [kind, bne_self_eq_false, Bool.false_eq_true, if_false]
    apply object_congr
    intro service decoded
    by_cases balanced : service.spec.type = some "LoadBalancer"
    · have absent := unlisted _ (.loadBalancer own setting service _ kind decoded balanced ((in_namespace _ _ _).mpr rfl))
      simp only [balanced, bne_self_eq_false, Bool.false_eq_true, if_false, List.contains_eq_mem, absent,
        List.not_mem_nil]
    · have other : (service.spec.type != some "LoadBalancer") = true := by simpa using balanced
      simp only [other, if_true]
  · have other : (request.kind.kind != "Service") = true := by simpa using kind
    simp only [other, if_true]

theorem pod_annotations_unlisted (own : Namespaces) (required : Requirements)
    (unlisted : Unlisted codec ignored request (.podAnnotations own required)) :
    enforcePodAnnotations codec ignored required request = enforcePodAnnotations codec [] required request := by
  rw [enforcePodAnnotations, enforcePodAnnotations]
  by_cases kind : request.kind.kind ∈ podKinds
  · have known : (!podKinds.contains request.kind.kind) = false := by simpa using kind
    simp only [known, Bool.false_eq_true, if_false]
    apply Told.bind_congr
    intro resource decoded
    cases bears : resource.podAnnotations? with
    | none => rfl
    | some annotations =>
      have absent := unlisted _
        (.bearer own required resource annotations _ kind decoded bears ((in_namespace _ _ _).mpr rfl))
      simp only [List.contains_eq_mem, absent, List.not_mem_nil]
  · have unknown : (!podKinds.contains request.kind.kind) = true := by simpa using kind
    simp only [unknown, if_true]

theorem autoscaler_unlisted (own : Namespaces) (unlisted : Unlisted codec ignored request (.autoscaler own)) :
    addAutoscalerMark ignored request = addAutoscalerMark [] request := by
  rw [addAutoscalerMark, addAutoscalerMark]
  by_cases kind : request.kind.kind = "Pod"
  · simp only [kind, bne_self_eq_false, Bool.false_eq_true, if_false]
    apply object_congr
    intro pod decoded
    have absent := unlisted _ (.pod own pod _ kind decoded ((in_namespace _ _ _).mpr rfl))
    simp only [List.contains_eq_mem, absent, List.not_mem_nil]
  · have other : (request.kind.kind != "Pod") = true := by simpa using kind
    simp only [other, if_true]

theorem unlisted_decision (policy : Policy) (unlisted : Unlisted codec ignored request policy) :
    (policy.exempting ignored).decision codec request = (policy.exempting []).decision codec request := by
  cases policy with
  | ingresses own => exact ingresses_unlisted codec ignored request own unlisted
  | loadBalancers own setting => exact load_balancers_unlisted codec ignored request own setting unlisted
  | publicServices => rfl
  | podAnnotations own required => exact pod_annotations_unlisted codec ignored request own required unlisted
  | autoscaler own => exact autoscaler_unlisted codec ignored request own unlisted

-- A longer list lets in whatever a shorter one does.
theorem wider_allows (policy : Policy) (more : Namespaces) (response : Response) (wider : ignored ⊆ more)
    (decided : ((policy.exempting ignored).decision codec request).outcome = .ok response)
    (allows : response.allowed = true) :
    ∃ other, ((policy.exempting more).decision codec request).outcome = .ok other ∧ other.allowed = true := by
  by_cases unlisted : Unlisted codec more request policy
  · have before : Unlisted codec ignored request policy := fun nameSpace applies listed =>
      unlisted nameSpace applies (wider listed)
    rw [unlisted_decision codec ignored request policy before] at decided
    rw [unlisted_decision codec more request policy unlisted]
    exact ⟨response, decided, allows⟩
  · simp only [Unlisted, not_forall, not_not] at unlisted
    obtain ⟨nameSpace, applies, listed⟩ := unlisted
    exact ⟨_, listed_outcome codec policy more request nameSpace applies listed, rfl⟩

end

theorem every_ingress_denied (request : Request) (kind : request.kind.kind = "Ingress") :
    ∃ refusal, (denyIngresses [] request).outcome = .error refusal := by
  simp only [denyIngresses, kind, bne_self_eq_false, Bool.false_eq_true, if_false]
  cases decoded : (objectAs .ingress request).outcome with
  | error failure => exact ⟨failure, (Told.bind_error _ _ _).mpr (.inl decoded)⟩
  | ok ingress => exact ⟨_, (Told.bind_error _ _ _).mpr (.inr ⟨ingress, decoded, rfl⟩)⟩

-- With the standard classes, every object of these kinds runs Pods.
theorem standard_bears (request : Request) (resource : Resource) (kind : request.kind.kind ∈ podKinds)
    (decoded : (Codec.standard.decodeObject request).outcome = .ok resource) :
    ∃ annotations, resource.podAnnotations? = some annotations := by
  have registered := decode_object_class Codec.standard request resource decoded
  obtain ⟨type, object⟩ := resource
  simp only [podKinds, List.mem_cons, List.not_mem_nil, or_false] at kind
  rcases kind with same | same | same | same | same
  all_goals
    rw [same] at registered
    cases registered
    exact ⟨_, rfl⟩

structure ExemptsOnly (codec : Codec) (policy : Policy) : Prop where
  listed : ∀ ignored review request nameSpace, review.request = some request →
    AppliesIn codec request policy nameSpace → nameSpace ∈ ignored →
      (decide codec (policy.exempting ignored) (some review)).outcome = .ok ⟨"", true,
        some ⟨"allowing admission: " ++ nameSpace ++ " namespace is whitelisted", none, none⟩, none, none, none⟩
  unlisted : ∀ ignored review request, review.request = some request →
    (∀ nameSpace, AppliesIn codec request policy nameSpace → nameSpace ∉ ignored) →
      decide codec (policy.exempting ignored) (some review) = decide codec (policy.exempting []) (some review)
  wider : ∀ ignored more review request response, review.request = some request → ignored ⊆ more →
    (decide codec (policy.exempting ignored) (some review)).outcome = .ok response → response.allowed = true →
      ∃ other, (decide codec (policy.exempting more) (some review)).outcome = .ok other ∧ other.allowed = true

theorem listed_namespaces_exempt (codec : Codec) :
    (∀ policy, ExemptsOnly codec policy) ∧
    (∀ review request, review.request = some request → request.kind.kind = "Ingress" →
      ∃ refusal, (decide codec (.ingresses []) (some review)).outcome = .error refusal) ∧
    (∀ request resource, request.kind.kind ∈ podKinds → (Codec.standard.decodeObject request).outcome = .ok resource →
      ∃ annotations, resource.podAnnotations? = some annotations) := by
  refine ⟨fun policy => ⟨?_, ?_, ?_⟩, ?_, standard_bears⟩
  · intro ignored review request nameSpace asked applies listed
    rw [decide_asked codec _ review request asked, ← whitelisted_response]
    exact listed_outcome codec policy ignored request nameSpace applies listed
  · intro ignored review request asked unlisted
    rw [decide_asked codec _ review request asked, decide_asked codec _ review request asked]
    exact unlisted_decision codec ignored request policy unlisted
  · intro ignored more review request response asked wider
    rw [decide_asked codec _ review request asked, decide_asked codec _ review request asked]
    exact wider_allows codec ignored request policy more response wider
  · intro review request asked kind
    rw [decide_asked codec _ review request asked]
    exact every_ingress_denied request kind

/- A Pod in a namespace, before a policy that could not judge it: one of its requirements has no predicate. -/

def systemPod : Members := [("metadata", .object [("namespace", .string "kube-system")])]

def unusablePolicy : Policy := .podAnnotations [] [("team", none)]

theorem system_pod_applies : AppliesIn .standard (requestFor "Pod" systemPod) unusablePolicy "kube-system" := by
  have fits : (Json.object systemPod).Fits nestingRoom := by simp [systemPod, nestingRoom, Json.AllFit]
  have decoded := request_decodes "Pod" systemPod .pod
    ⟨none, none, ⟨none, none, some "kube-system", none, none, none⟩, PodSpec.empty⟩ (by simp [systemPod]) fits rfl
  exact .bearer [] _ _ [] "kube-system" (by simp [requestFor, podKinds])
    (decode_object_found .standard _ .pod _ rfl decoded) rfl (.own "kube-system" rfl (by decide))

theorem system_pod_exempt :
    (reviewFor "Pod" systemPod).request = some (requestFor "Pod" systemPod) ∧
    AppliesIn .standard (requestFor "Pod" systemPod) unusablePolicy "kube-system" ∧
    (decide .standard (unusablePolicy.exempting ["default", "kube-system"]) (some (reviewFor "Pod" systemPod))).outcome =
      .ok ⟨"", true, some ⟨"allowing admission: kube-system namespace is whitelisted", none, none⟩, none, none, none⟩ ∧
    (∀ nameSpace, AppliesIn .standard (requestFor "Pod" systemPod) unusablePolicy nameSpace →
      nameSpace ∉ ["Kube-System", "kube", ""]) ∧
    decide .standard (unusablePolicy.exempting ["Kube-System", "kube", ""]) (some (reviewFor "Pod" systemPod)) =
      decide .standard (unusablePolicy.exempting []) (some (reviewFor "Pod" systemPod)) := by
  have exempts := (listed_namespaces_exempt .standard).1 unusablePolicy
  have unlisted : ∀ nameSpace, AppliesIn .standard (requestFor "Pod" systemPod) unusablePolicy nameSpace →
      nameSpace ∉ ["Kube-System", "kube", ""] := by
    intro nameSpace applies
    rw [applies_once .standard _ _ _ _ applies system_pod_applies]
    decide
  exact ⟨rfl, system_pod_applies, exempts.listed _ _ _ _ rfl system_pod_applies (by decide), unlisted,
    exempts.unlisted _ _ _ rfl unlisted⟩

end Gatehouse.Policy
