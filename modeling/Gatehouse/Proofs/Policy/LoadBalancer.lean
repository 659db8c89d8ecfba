import Gatehouse.Proofs.Policy.Basic

/- When a load balancer is let in. Outside the exempt namespaces it takes the annotation of the configured provider,
   with the very value of that provider; a provider that cannot be told is only found out then. How the provider is
   spelled makes no difference. -/
namespace Gatehouse

namespace ProviderSetting

-- The provider that a setting stands for: itself, or the one whose name is written, trimmed and in lower case.
inductive Names : ProviderSetting → CloudProvider → Prop where
  | known (provider : CloudProvider) : Names (.known provider) provider
  | spelled (value : Json) (provider : CloudProvider)
    (same : provider.name = String.ofList ((Text.trim value.plain.toList).map Text.lower)) :
    Names (.given value) provider

end ProviderSetting

namespace CloudProvider

theorem parse_found (text : String) (provider : CloudProvider) : parse? text = some provider ↔
    provider.name = String.ofList ((Text.trim text.toList).map Text.lower) := by
  rw [parse?]
  constructor
  · intro found
    simpa using List.find?_some found
  · intro same
    rw [← same]
    cases provider <;> rfl

theorem marker_key_inj (left right : CloudProvider) (same : left.marker.1 = right.marker.1) : left = right := by
  cases left <;> cases right <;> simp [marker] at same ⊢

end CloudProvider

namespace ProviderSetting

theorem resolve_ok (setting : ProviderSetting) (provider : CloudProvider) :
    setting.resolve = .ok provider ↔ setting.Names provider := by
  cases setting with
  | known own =>
    constructor
    · intro resolved
      cases resolved
      exact .known provider
    · intro names
      cases names with
      | known provider => rfl
  | given value =>
    have spelled := CloudProvider.parse_found value.plain
    constructor
    · intro resolved
      rw [resolve] at resolved
      split at resolved
      · rename_i found parsed
        cases resolved
        exact .spelled value provider ((spelled provider).mp parsed)
      · cases resolved
    · intro names
      cases names with
      | spelled value provider same => rw [resolve, (spelled provider).mpr same]

theorem resolve_error (setting : ProviderSetting) (unnamed : ∀ provider, ¬ setting.Names provider) :
    ∃ value, setting = .given value ∧ setting.resolve = .error (.unsupportedProvider value.plain) := by
  cases setting with
  | known own => exact absurd (.known own) (unnamed own)
  | given value =>
    refine ⟨value, rfl, ?_⟩
    cases parsed : CloudProvider.parse? value.plain with
    | none => rw [resolve, parsed]
    | some provider =>
      have same := (CloudProvider.parse_found value.plain provider).mp parsed
      exact absurd (.spelled value provider same) (unnamed provider)

end ProviderSetting

namespace Policy

-- A load balancer that the policy has to judge.
structure Exposed (ignored : Namespaces) (request : Request) (service : Object ServiceSpec) : Prop where
  kind : request.kind.kind = "Service"
  decoded : (Codec.decodeObjectAs .service request).outcome = .ok service
  balanced : service.spec.type = some "LoadBalancer"
  unlisted : effectiveNamespace request service ∉ ignored

theorem other_kind_admitted (ignored : Namespaces) (setting : ProviderSetting) (request : Request)
    (other : request.kind.kind ≠ "Service") :
    (denyPublicLoadBalancers ignored setting request).outcome = .ok admitted := by
  have different : (request.kind.kind != "Service") = true := by simpa using other
  simp only [denyPublicLoadBalancers, different, if_pos]
  rfl

theorem other_type_admitted (ignored : Namespaces) (setting : ProviderSetting) (request : Request)
    (service : Object ServiceSpec) (kind : request.kind.kind = "Service")
    (decoded : (Codec.decodeObjectAs .service request).outcome = .ok service)
    (other : service.spec.type ≠ some "LoadBalancer") :
    (denyPublicLoadBalancers ignored setting request).outcome = .ok admitted := by
  have different : (service.spec.type != some "LoadBalancer") = true := by simpa using other
  simp only [denyPublicLoadBalancers, kind, bne_self_eq_false, Bool.false_eq_true, if_false]
  rw [object_then .service request service _ decoded, if_pos different]
  rfl

theorem exposed_unresolved (ignored : Namespaces) (setting : ProviderSetting) (request : Request)
    (service : Object ServiceSpec) (exposed : Exposed ignored request service) (cause : Misconfiguration)
    (unresolved : setting.resolve = .error cause) :
    (denyPublicLoadBalancers ignored setting request).outcome = .error (.misconfigured cause) := by
  simp only [denyPublicLoadBalancers, exposed.kind, bne_self_eq_false, Bool.false_eq_true, if_false]
  rw [object_then .service request service _ exposed.decoded]
  simp only [exposed.balanced, bne_self_eq_false, Bool.false_eq_true, if_false, List.contains_eq_mem, exposed.unlisted,
    decide_false, unresolved]
  rfl

theorem exposed_resolved (ignored : Namespaces) (setting : ProviderSetting) (request : Request)
    (service : Object ServiceSpec) (exposed : Exposed ignored request service) (provider : CloudProvider)
    (resolved : setting.resolve = .ok provider) : (denyPublicLoadBalancers ignored setting request).outcome =
      if lastOf service.annotations provider.marker.1 = some provider.marker.2 then .ok admitted
      else .error (.violation (.publicLoadBalancer "Service" provider.marker.1 provider.marker.2)) := by
  simp only [denyPublicLoadBalancers, exposed.kind, bne_self_eq_false, Bool.false_eq_true, if_false]
  rw [object_then .service request service _ exposed.decoded]
  simp only [exposed.balanced, bne_self_eq_false, Bool.false_eq_true, if_false, List.contains_eq_mem, exposed.unlisted,
    decide_false, resolved]
  by_cases marked : lastOf service.annotations provider.marker.1 = some provider.marker.2
  · simp only [marked, bne_self_eq_false, Bool.false_eq_true, if_false, if_true]
    rfl
  · have different : (lastOf service.annotations provider.marker.1 != some provider.marker.2) = true := by
      simpa using marked
    rw [if_neg marked, if_pos different]
    rfl

theorem unsupported_message (text : String) : (Misconfiguration.unsupportedProvider text).message =
    "cannot validate the internal load balancer annotation for the given provider (" ++ text ++ ")" := by
  simp [Misconfiguration.message, Message.withValue, Message.pieces, String.join]

theorem public_message (key value : String) : (Violation.publicLoadBalancer "Service" key value).message =
    "Service objects of type: LoadBalancer without an internal-only annotation cannot be deployed to this cluster: " ++
      "missing or invalid annotations: " ++ key ++ "=" ++ value := by
  simp [Violation.message, Message.withValue, Message.pieces, String.join]

-- The annotations that mark load balancers of other providers do not mark one of this provider.
theorem foreign_unmarked (annotations : Labels) (provider : CloudProvider)
    (foreign : ∀ entry ∈ annotations, ∃ other, other ≠ provider ∧ entry = CloudProvider.marker other) :
    lastOf annotations provider.marker.1 ≠ some provider.marker.2 := by
  intro marked
  obtain ⟨other, different, same⟩ := foreign _ (last_of_member _ _ _ marked)
  exact different (CloudProvider.marker_key_inj other provider (congrArg Prod.fst same).symm)

structure LoadBalancersJudged (ignored : Namespaces) (setting : ProviderSetting) (request : Request)
    (outcome : Except Refusal Response) : Prop where
  otherKind : request.kind.kind ≠ "Service" → outcome = .ok admitted
  otherType : ∀ service, request.kind.kind = "Service" →
    (Codec.decodeObjectAs .service request).outcome = .ok service → service.spec.type ≠ some "LoadBalancer" →
      outcome = .ok admitted
  unnamed : ∀ service, Exposed ignored request service → (∀ provider, ¬ setting.Names provider) →
    ∃ value refusal, setting = .given value ∧ outcome = .error refusal ∧ refusal.name = "UnsupportedProviderError" ∧
      refusal.message = "cannot validate the internal load balancer annotation for the given provider (" ++
        value.plain ++ ")"
  marked : ∀ service provider, Exposed ignored request service → setting.Names provider →
    lastOf service.annotations provider.marker.1 = some provider.marker.2 → outcome = .ok admitted
  unmarked : ∀ service provider, Exposed ignored request service → setting.Names provider →
    lastOf service.annotations provider.marker.1 ≠ some provider.marker.2 →
      ∃ refusal, outcome = .error refusal ∧ refusal.name = "PolicyViolation" ∧ refusal.message =
        "Service objects of type: LoadBalancer without an internal-only annotation cannot be deployed to this cluster: "
          ++ "missing or invalid annotations: " ++ provider.marker.1 ++ "=" ++ provider.marker.2
  foreign : ∀ service provider, Exposed ignored request service → setting.Names provider →
    (∀ entry ∈ service.annotations, ∃ other, other ≠ provider ∧ entry = CloudProvider.marker other) →
      ∃ refusal, outcome = .error refusal ∧ refusal.name = "PolicyViolation"

theorem load_balancers_request (ignored : Namespaces) (setting : ProviderSetting) (request : Request) :
    LoadBalancersJudged ignored setting request (denyPublicLoadBalancers ignored setting request).outcome where
  otherKind := other_kind_admitted ignored setting request
  otherType := other_type_admitted ignored setting request
  unnamed := by
    intro service exposed unnamed
    obtain ⟨value, given, unresolved⟩ := setting.resolve_error unnamed
    refine ⟨value, _, given, exposed_unresolved ignored setting request service exposed _ unresolved, rfl, ?_⟩
    exact unsupported_message value.plain
  marked := by
    intro service provider exposed names marked
    rw [exposed_resolved ignored setting request service exposed provider ((setting.resolve_ok _).mpr names),
      if_pos marked]
  unmarked := by
    intro service provider exposed names unmarked
    rw [exposed_resolved ignored setting request service exposed provider ((setting.resolve_ok _).mpr names),
      if_neg unmarked]
    exact ⟨_, rfl, rfl, public_message _ _⟩
  foreign := by
    intro service provider exposed names foreign
    rw [exposed_resolved ignored setting request service exposed provider ((setting.resolve_ok _).mpr names),
      if_neg (foreign_unmarked _ provider foreign)]
    exact ⟨_, rfl, rfl⟩

theorem load_balancers_spelling (ignored : Namespaces) (setting other : ProviderSetting) (provider : CloudProvider)
    (names : setting.Names provider) (otherNames : other.Names provider) :
    denyPublicLoadBalancers ignored setting = denyPublicLoadBalancers ignored other := by
  funext request
  rw [denyPublicLoadBalancers, denyPublicLoadBalancers, (setting.resolve_ok _).mpr names,
    (other.resolve_ok _).mpr otherNames]

theorem load_balancers_judged (codec : Codec) (ignored : Namespaces) (setting : ProviderSetting) :
    (∀ review request, review.request = some request → LoadBalancersJudged ignored setting request
      (decide codec (.loadBalancers ignored setting) (some review)).outcome) ∧
    (∀ other provider, setting.Names provider → other.Names provider → ∀ review,
      decide codec (.loadBalancers ignored setting) review = decide codec (.loadBalancers ignored other) review) := by
  constructor
  · intro review request asked
    rw [decide_asked codec _ review request asked]
    exact load_balancers_request ignored setting request
  · intro other provider names otherNames review
    rw [decide, decide, decision, decision, load_balancers_spelling ignored setting other provider names otherNames]

/- A load balancer that is marked for one provider, where another one is configured. -/

def awsService : Members :=
  [("metadata", .object [("annotations", .object [("service.beta.kubernetes.io/aws-load-balancer-internal",
      .string "0.0.0.0/0")])]), ("spec", .object [("type", .string "LoadBalancer")])]

def awsMarked : Object ServiceSpec :=
  ⟨none, none, ⟨none, none, none, none, none, some [CloudProvider.aws.marker]⟩, some "LoadBalancer", none, none, none,
    none⟩

theorem aws_service_exposed : Exposed ["default"] (requestFor "Service" awsService) awsMarked := by
  have fits : (Json.object awsService).Fits nestingRoom := by simp [awsService, nestingRoom, Json.AllFit]
  exact ⟨rfl, request_decodes "Service" awsService .service awsMarked (by simp [awsService]) fits rfl, rfl, by decide⟩

theorem azure_spelled : (ProviderSetting.given (.string " aZuRe\t")).Names .azure :=
  .spelled _ _ (by decide +kernel)

theorem azure_denies_aws_service :
    Exposed ["default"] (requestFor "Service" awsService) awsMarked ∧
    (ProviderSetting.given (.string " aZuRe\t")).Names .azure ∧
    (∀ entry ∈ awsMarked.annotations, ∃ other, other ≠ .azure ∧ entry = CloudProvider.marker other) ∧
    (∃ refusal, (decide .standard (.loadBalancers ["default"] (.given (.string " aZuRe\t")))
      (some (reviewFor "Service" awsService))).outcome = .error refusal ∧
        refusal.name = "PolicyViolation") ∧
    decide .standard (.loadBalancers ["default"] (.given (.string " aZuRe\t"))) (some (reviewFor "Service" awsService)) =
      decide .standard (.loadBalancers ["default"] (.known .azure)) (some (reviewFor "Service" awsService)) := by
  have foreign : ∀ entry ∈ awsMarked.annotations, ∃ other, other ≠ .azure ∧ entry = CloudProvider.marker other := by
    intro entry member
    exact ⟨.aws, by decide, List.mem_singleton.mp member⟩
  have judged := load_balancers_judged .standard ["default"] (.given (.string " aZuRe\t"))
  refine ⟨aws_service_exposed, azure_spelled, foreign, ?_, ?_⟩
  · exact (judged.1 _ _ rfl).foreign _ _ aws_service_exposed azure_spelled foreign
  · exact judged.2 _ _ azure_spelled (.known .azure) _

end Policy
end Gatehouse
