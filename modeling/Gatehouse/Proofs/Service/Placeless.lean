import Gatehouse.Proofs.Policy.Exemption
import Gatehouse.Proofs.Service.Built
import Gatehouse.Proofs.Settings.Namespaces

/- Objects that are in no namespace: neither they nor the request about them name one. They are judged as if no
   namespace were exempt, unless the empty name is on the list; and it is there only when a list of names has it, which
   the caller gave. -/
namespace Gatehouse

namespace Policy

/-- Neither the object of a request, however it is decoded, nor the request itself names a namespace. -/
structure Placeless (request : Request) : Prop where
  asked : request.nameSpace = none ∨ request.nameSpace = some ""
  own : ∀ type object, (Codec.decodeObjectAs type request).outcome = .ok object →
    object.metadata.nameSpace = none ∨ object.metadata.nameSpace = some ""

theorem decode_object_as (codec : Codec) (request : Request) (resource : Resource)
    (decoded : (codec.decodeObject request).outcome = .ok resource) :
    (Codec.decodeObjectAs resource.type request).outcome = .ok resource.object := by
  rw [Codec.decodeObject] at decoded
  split at decoded
  · cases decoded
  · obtain ⟨object, found, same⟩ := (Told.bind_ok _ _ _).mp decoded
    cases same
    exact (Told.map_error_ok _ _ _).mp found

theorem placeless_in (request : Request) (metadata : Metadata) (nameSpace : String)
    (asked : request.nameSpace = none ∨ request.nameSpace = some "")
    (own : metadata.nameSpace = none ∨ metadata.nameSpace = some "")
    (placed : InNamespace request metadata nameSpace) : nameSpace = "" := by
  cases placed with
  | own nameSpace named filled => simp_all
  | asked nameSpace unnamed given => simp_all
  | nowhere => rfl

theorem placeless_applies (codec : Codec) (request : Request) (policy : Policy) (nameSpace : String)
    (placeless : Placeless request) (applies : AppliesIn codec request policy nameSpace) : nameSpace = "" := by
  cases applies with
  | ingress _ ingress _ _ decoded placed =>
    exact placeless_in _ _ _ placeless.asked (placeless.own .ingress ingress decoded) placed
  | loadBalancer _ _ service _ _ decoded _ placed =>
    exact placeless_in _ _ _ placeless.asked (placeless.own .service service decoded) placed
  | bearer _ _ resource _ _ _ decoded _ placed =>
    exact placeless_in _ _ _ placeless.asked
      (placeless.own resource.type resource.object (decode_object_as codec request resource decoded)) placed
  | pod _ pod _ _ decoded placed =>
    exact placeless_in _ _ _ placeless.asked (placeless.own .pod pod decoded) placed

theorem placeless_decision (codec : Codec) (policy : Policy) (ignored : Namespaces) (review : Review)
    (request : Request) (asks : review.request = some request) (placeless : Placeless request)
    (filled : "" ∉ ignored) :
    (policy.exempting ignored).decide codec (some review) = (policy.exempting []).decide codec (some review) := by
  rw [decide_asked codec _ review request asks, decide_asked codec _ review request asks]
  refine unlisted_decision codec ignored request policy fun nameSpace applies => ?_
  rw [placeless_applies codec request policy nameSpace placeless applies]
  exact filled

/- Policies that exempt nothing -/

-- A response without words, or to a request about something else than a Pod.
def Unexempting (response : Response) : Prop :=
  response.result = none ∨ ∃ kind, response = allowedSaying denied (Message.withValue .notAPod kind)

theorem ingresses_unexempting (request : Request) (response : Response)
    (decided : (denyIngresses [] request).outcome = .ok response) : Unexempting response := by
  unfold denyIngresses at decided
  dsimp only at decided
  split at decided
  · cases decided
    exact .inl rfl
  · obtain ⟨ingress, _, later⟩ := (Told.bind_ok _ _ _).mp decided
    cases later

theorem load_balancers_unexempting (setting : ProviderSetting) (request : Request) (response : Response)
    (decided : (denyPublicLoadBalancers [] setting request).outcome = .ok response) : Unexempting response := by
  unfold denyPublicLoadBalancers at decided
  dsimp only at decided
  split at decided
  · cases decided
    exact .inl rfl
  · obtain ⟨service, _, later⟩ := (Told.bind_ok _ _ _).mp decided
    split at later
    · cases later
      exact .inl rfl
    · cases resolved : setting.resolve with
      | error cause =>
        simp only [resolved] at later
        cases later
      | ok provider =>
        simp only [resolved, List.contains_nil, Bool.false_eq_true, if_false] at later
        split at later
        · cases later
        · cases later
          exact .inl rfl

theorem pod_annotations_unexempting (codec : Codec) (required : Requirements) (request : Request)
    (response : Response) (decided : (enforcePodAnnotations codec [] required request).outcome = .ok response) :
    Unexempting response := by
  unfold enforcePodAnnotations at decided
  dsimp only at decided
  split at decided
  · cases decided
  · obtain ⟨resource, _, later⟩ := (Told.bind_ok _ _ _).mp decided
    split at later
    · cases later
    · simp only [List.contains_nil, Bool.false_eq_true, if_false] at later
      split at later
      · cases later
      · cases later
        exact .inl rfl
      · cases later

theorem autoscaler_unexempting (request : Request) (response : Response)
    (decided : (addAutoscalerMark [] request).outcome = .ok response) : Unexempting response := by
  unfold addAutoscalerMark at decided
  dsimp only at decided
  split at decided
  · cases decided
    exact .inr ⟨_, rfl⟩
  · obtain ⟨pod, _, later⟩ := (Told.bind_ok _ _ _).mp decided
    simp only [List.contains_nil, Bool.false_eq_true, if_false] at later
    split at later
    · cases later
      exact .inl rfl
    · cases later
      exact .inl rfl

theorem unexempting (codec : Codec) (policy : Policy) (review : Review) (response : Response)
    (decided : ((policy.exempting []).decide codec (some review)).outcome = .ok response) : Unexempting response := by
  cases asked : review.request with
  | none =>
    rw [decide, reviewed, Option.bind_some, asked] at decided
    cases decided
  | some request =>
    rw [decide_asked codec _ review request asked] at decided
    cases policy with
    | ingresses => exact ingresses_unexempting request response decided
    | loadBalancers _ setting => exact load_balancers_unexempting setting request response decided
    | publicServices =>
      simp only [exempting, decision, denyPublicServices] at decided
      split at decided
      · exact ingresses_unexempting request response decided
      · exact load_balancers_unexempting _ request response decided
    | podAnnotations _ required => exact pod_annotations_unexempting codec required request response decided
    | autoscaler => exact autoscaler_unexempting request response decided

theorem unexempting_usual (response : Response) (silent : Unexempting response) : Usual response.message := by
  rcases silent with silent | ⟨kind, rfl⟩
  · rw [Response.message, silent]
    decide +kernel
  · exact usual_worded .notAPod kind _ _ rfl (by simp) (by decide +kernel)

end Policy

theorem usual_unexempted (text : String) (usual : Usual text) (nameSpace : String) :
    text ≠ "allowing admission: " ++ nameSpace ++ " namespace is whitelisted" := by
  rintro rfl
  have apart : "allowing".toList ∉ openings := by decide +kernel
  rw [Usual, String.append_assoc, opening_append _ _ (by simp)] at usual
  exact apart usual

namespace Endpoint

-- What an endpoint answers depends on its policy only through the decisions on the reviews that it receives.
theorem policies_alike (codec : Codec) (mine theirs : Policy) (limit : Nat) (delivery : Delivery)
    (same : ∀ review request, Received (ofPolicy codec mine limit) delivery review request →
      mine.decide codec (some review) = theirs.decide codec (some review)) :
    (ofPolicy codec mine limit).handle 0 delivery = (ofPolicy codec theirs limit).handle 0 delivery := by
  have received : (ofPolicy codec theirs limit).receive delivery = (ofPolicy codec mine limit).receive delivery := rfl
  rw [handle, handle, received]
  cases came : ((ofPolicy codec mine limit).receive delivery).outcome with
  | error failure => rfl
  | ok pair =>
    obtain ⟨review, request⟩ := pair
    have judged : (ofPolicy codec mine limit).judge review = (ofPolicy codec theirs limit).judge review := by
      simp only [ofPolicy, Policy.judge, same review request ((receive_received _ _ _ _).mp came)]
    have asked : (ofPolicy codec mine limit).ask review request = (ofPolicy codec theirs limit).ask review request := by
      simp only [ask, judged]
    have decided : (ofPolicy codec mine limit).decide review request =
        (ofPolicy codec theirs limit).decide review request := by
      rw [decide, decide, ← asked]
      apply Told.bind_congr
      intro verdict found
      -- A policy always gives a response, so that the endpoint never tells its label.
      obtain ⟨response, _, given⟩ := (Told.bind_ok _ _ _).mp ((ask_ok _ _ _ _).mp found)
      cases given
      rfl
    simp only [decided]

theorem unexempting_speaks (codec : Codec) (policy : Policy) (configured : policy.Configured)
    (empty : policy = policy.exempting []) : Speaks Usual codec policy where
  usually := fun _ usual => usual
  refusal := (configured_speaks codec policy configured).refusal
  response review response decided := by
    rw [empty] at decided
    exact Policy.unexempting_usual response (Policy.unexempting codec policy review response decided)

end Endpoint

namespace Service

theorem assigned_exempting (settings : Settings) (name : String) (policy : Policy)
    (assigned : Assigned settings name policy) : policy = policy.exempting settings.ignored ∧
      Assigned { settings with ignored := [] } name (policy.exempting []) := by
  cases assigned with
  | ingresses => exact ⟨rfl, .ingresses⟩
  | publicServices => exact ⟨rfl, .publicServices⟩
  | podAnnotations => exact ⟨rfl, .podAnnotations⟩
  | autoscaler => exact ⟨rfl, .autoscaler⟩
  | configured => exact ⟨rfl, .configured⟩
  | provider provider => exact ⟨rfl, .provider provider⟩

/-- An answer with a review whose response says something else than that a namespace is exempt. -/
def Unexempted (answer : Http.Answer) : Prop := ∃ review response,
  answer = answerOf (.review (Codec.encode .review review)) ∧ review.response = some response ∧
    ∀ nameSpace, response.message ≠ "allowing admission: " ++ nameSpace ++ " namespace is whitelisted"

theorem nothing_exempted (settings : Settings) (empty : settings.ignored = []) (name : String) (policy : Policy)
    (assigned : Assigned settings name policy) (request : Http.Request) (post : request.method = "POST")
    (path : request.path = pathStart ++ name) : Unexempted ((routes settings).handle request).2 := by
  have exempting := (assigned_exempting settings name policy assigned).1
  obtain ⟨review, response, sent, present, usual⟩ := Endpoint.policy_said Usual .standard policy
    (Endpoint.unexempting_speaks .standard policy (assigned_configured settings name policy assigned)
      (empty ▸ exempting)) settings.server.limit.bytes.toNat request.delivery
  refine ⟨review, response, ?_, present, usual_unexempted _ usual⟩
  rw [policy_answers settings name policy assigned request post path, ← sent]
  rfl

-- What is received by an endpoint of the service is about objects without a namespace.
def Brings (settings : Settings) (policy : Policy) (delivery : Delivery) : Prop :=
  ∀ review request, Endpoint.Received (.ofPolicy .standard policy settings.server.limit.bytes.toNat) delivery review
    request → Policy.Placeless request

theorem placeless_handled (settings : Settings) (filled : "" ∉ settings.ignored) (name : String) (policy : Policy)
    (assigned : Assigned settings name policy) (request : Http.Request) (post : request.method = "POST")
    (path : request.path = pathStart ++ name) (brings : Brings settings policy request.delivery) :
    (routes settings).handle request = (routes { settings with ignored := [] }).handle request := by
  obtain ⟨exempting, other⟩ := assigned_exempting settings name policy assigned
  rw [policy_answers settings name policy assigned request post path,
    policy_answers { settings with ignored := [] } name _ other request post path, answered, answered,
    Endpoint.policies_alike .standard policy (policy.exempting [])]
  intro review asked received
  have decides := Policy.placeless_decision .standard policy settings.ignored review asked received.asks
    (brings review asked received) filled
  rwa [← exempting] at decides

-- The flag that takes a namespace.
def namespaceFlag : CommandLine.Flag := ⟨"--ignored-namespace", "ignored_namespaces", .collected⟩

theorem flagged_items (given : CommandLine.Given) (overrides : Members)
    (flagged : CommandLine.Flagged given .serve overrides) :
    (∃ items, lastOf overrides "ignored_namespaces" = some (.array items) ∧ .string "" ∈ items) ↔
      "" ∈ CommandLine.valuesOf given namespaceFlag := by
  have taken := flagged.taken namespaceFlag (by decide)
  cases last : (CommandLine.valuesOf given namespaceFlag).getLast? with
  | none =>
    have nothing := List.getLast?_eq_none_iff.mp last
    have absent : lastOf overrides namespaceFlag.setting = none := (flagged.omitted namespaceFlag (by decide)).mpr nothing
    have absent : lastOf overrides "ignored_namespaces" = none := absent
    simp [absent, nothing]
  | some value =>
    rw [CommandLine.settingOf?, last] at taken
    have listed : some (.array ((CommandLine.valuesOf given namespaceFlag).map .string)) =
      lastOf overrides "ignored_namespaces" := Option.some.inj taken
    simp [← listed]

/-- How the service judges objects without a namespace. -/
structure Placing (sources : Sources) (settings : Settings) : Prop where
  listed : "" ∈ settings.ignored ↔
    ∃ items, lastOf sources.given "ignored_namespaces" = some (.array items) ∧ .string "" ∈ items
  flagged : ∀ arguments, CommandLine.request arguments = .command .serve sources.given →
    ∃ given, CommandLine.Typed arguments .serve given ∧
      ("" ∈ settings.ignored ↔ "" ∈ CommandLine.valuesOf given namespaceFlag)
  judged : "" ∉ settings.ignored → ∀ name policy, Assigned settings name policy → ∀ request : Http.Request,
    request.method = "POST" → request.path = pathStart ++ name → Brings settings policy request.delivery →
      (routes settings).handle request = (routes { settings with ignored := [] }).handle request ∧
        Unexempted ((routes settings).handle request).2
  exempted : "" ∈ settings.ignored → ∀ name policy, Assigned settings name policy → ∀ review request nameSpace,
    review.request = some request → Policy.Placeless request →
    Policy.AppliesIn .standard request policy nameSpace →
      (policy.decide .standard (some review)).outcome =
        .ok ⟨"", true, some ⟨"allowing admission:  namespace is whitelisted", none, none⟩, none, none, none⟩

theorem placeless_judged (sources : Sources) (settings : Settings)
    (settled : (Json.object sources.given).collapsed = .object sources.given)
    (loaded : Settings.load sources = .ok settings) : Placing sources settings where
  listed := blank_listed_iff sources settings settled loaded
  flagged := by
    intro arguments entered
    obtain ⟨given, typed, made⟩ := CommandLine.request_typed arguments .serve sources.given entered
    refine ⟨given, typed, ?_⟩
    rw [blank_listed_iff sources settings settled loaded]
    exact flagged_items given sources.given (CommandLine.flags_override given .serve sources.given made)
  judged := by
    intro filled name policy assigned request post path brings
    have same := placeless_handled settings filled name policy assigned request post path brings
    refine ⟨same, ?_⟩
    rw [same]
    exact nothing_exempted { settings with ignored := [] } rfl name _ (assigned_exempting settings name policy assigned).2
      request post path
  exempted := by
    intro blank name policy assigned review request nameSpace asks placeless applies
    obtain rfl := Policy.placeless_applies .standard request policy nameSpace placeless applies
    rw [Policy.decide_asked .standard policy review request asks, (assigned_exempting settings name policy assigned).1]
    exact Policy.listed_outcome .standard policy settings.ignored request "" applies blank

/- An Ingress without a namespace, posted to the endpoint that denies Ingresses -/

def bareIngress : Members := [("metadata", .object [("name", .string "web")])]

def bareSource : Json :=
  .object [("request", .object [("kind", .object [("kind", .string "Ingress")]), ("object", .object bareIngress)])]

def bareDelivery : Delivery := ⟨[Utf8.encode (bareSource.text Json.compact)], false⟩

def barePost : Http.Request := ⟨"POST", pathStart ++ "deny-ingresses", bareDelivery⟩

theorem bare_placeless : Policy.Placeless (Policy.requestFor "Ingress" bareIngress) := by
  refine ⟨.inl rfl, fun type object decoded => ?_⟩
  have fits : (Json.object bareIngress).Fits nestingRoom := by simp [bareIngress, nestingRoom, Json.AllFit]
  obtain ⟨members, submitted, _, read⟩ :=
    (decode_object_as_ok type _ object fun members submitted => by cases submitted; exact fits).mp decoded
  cases submitted
  cases type <;> cases read <;> exact .inl rfl

theorem bare_received (settings : Settings) (policy : Policy) (limit : settings.server.limit.bytes = 1073741824) :
    Endpoint.Received (.ofPolicy .standard policy settings.server.limit.bytes.toNat) bareDelivery
      (Policy.reviewFor "Ingress" bareIngress) (Policy.requestFor "Ingress" bareIngress) := by
  have fits : bareSource.Fits nestingRoom := by simp [bareSource, bareIngress, nestingRoom, Json.AllFit]
  have short : (Utf8.encode (bareSource.text Json.compact)).size ≤ 1073741824 := by decide +kernel
  refine Endpoint.written_received _ bareSource _ _ fits rfl rfl rfl ?_
  simp only [Endpoint.ofPolicy, limit]
  exact short

theorem bare_brings (settings : Settings) (policy : Policy) (limit : settings.server.limit.bytes = 1073741824) :
    Brings settings policy bareDelivery := by
  intro review request received
  have first := (Endpoint.receive_received _ _ _ _).mpr received
  have second := (Endpoint.receive_received _ _ _ _).mpr (bare_received settings policy limit)
  cases Except.ok.inj (first.symm.trans second)
  exact bare_placeless

-- Commas and blanks around one name.
def commas : Sources := ⟨[("ignored_namespaces", .string " , kube-system,")], [], ⟨[], []⟩, .bare⟩

theorem commas_judged : ∃ settings, Settings.load commas = .ok settings ∧ settings.ignored = ["kube-system"] ∧
    Placing commas settings ∧ Brings settings (.ingresses settings.ignored) barePost.delivery ∧
    Unexempted ((routes settings).handle barePost).2 := by
  have loads : Settings.loadedWith (fun settings => settings.ignored == ["kube-system"] &&
      settings.server.limit.bytes == 1073741824) (Settings.load commas) = true := by decide +kernel
  obtain ⟨settings, loaded, looks⟩ := Settings.loaded_with _ _ loads
  simp only [Bool.and_eq_true, beq_iff_eq] at looks
  obtain ⟨ignored, limit⟩ := looks
  have placing := placeless_judged commas settings rfl loaded
  have brings := bare_brings settings (.ingresses settings.ignored) limit
  have filled : "" ∉ settings.ignored := by rw [ignored]; decide
  exact ⟨settings, loaded, ignored, placing, brings,
    (placing.judged filled _ _ .ingresses barePost rfl (by decide +kernel) brings).2⟩

-- A flag that is given without a name.
def nameless : Sources :=
  ⟨[("http_only", .bool true), ("ignored_namespaces", .array [.string ""])], [], ⟨[], []⟩, .bare⟩

theorem nameless_exempts : ∃ settings review response, Settings.load nameless = .ok settings ∧
    CommandLine.request ["serve", "--http-only", "--ignored-namespace", ""] = .command .serve nameless.given ∧
    Brings settings (.ingresses settings.ignored) barePost.delivery ∧
    ((routes settings).handle barePost).2 = answerOf (.review (Codec.encode .review review)) ∧
    review.response = some response ∧ response.allowed = true ∧
    response.message = "allowing admission:  namespace is whitelisted" ∧
    Unexempted ((routes { settings with ignored := [] }).handle barePost).2 := by
  have loads : Settings.loadedWith (fun settings => settings.ignored == [""] &&
      settings.server.limit.bytes == 1073741824) (Settings.load nameless) = true := by decide +kernel
  obtain ⟨settings, loaded, looks⟩ := Settings.loaded_with _ _ loads
  simp only [Bool.and_eq_true, beq_iff_eq] at looks
  obtain ⟨ignored, limit⟩ := looks
  have received := bare_received settings (.ingresses settings.ignored) limit
  have decoded := Policy.request_decodes "Ingress" bareIngress .ingress _ (by simp [bareIngress])
    (by simp [bareIngress, nestingRoom, Json.AllFit]) rfl
  have applies : Policy.AppliesIn .standard (Policy.requestFor "Ingress" bareIngress) (.ingresses settings.ignored) "" :=
    .ingress settings.ignored _ "" rfl decoded (.nowhere (.inl rfl) rfl)
  have decided := Policy.listed_outcome .standard _ settings.ignored _ "" applies (by rw [ignored]; decide)
  have judged : ((Endpoint.ofPolicy .standard (.ingresses settings.ignored) settings.server.limit.bytes.toNat).judge
      (Policy.reviewFor "Ingress" bareIngress)).outcome = .ok (.response (Policy.allowedWhitelisted "")) := by
    refine (Told.bind_ok _ _ _).mpr ⟨_, ?_, rfl⟩
    rw [Policy.decide_asked .standard _ _ _ received.asks]
    exact decided
  have outgoing := (Endpoint.decide_ok _ _ (Policy.requestFor "Ingress" bareIngress) _).mpr ⟨_, _, judged, rfl, rfl⟩
  have handled := Endpoint.handle_encoded _ _ _ _ _ ((Endpoint.receive_received _ _ _ _).mpr received) outgoing
  have path : barePost.path = pathStart ++ "deny-ingresses" := by decide +kernel
  have sent : ((routes settings).handle barePost).2 = answerOf (.review (Codec.encode .review
      (Endpoint.answerWith .v1 { Policy.allowedWhitelisted "" with uid := "" }))) := by
    rw [policy_answers settings _ _ .ingresses barePost rfl path, answered, barePost, handled]
    rfl
  exact ⟨settings, _, _, loaded, rfl, bare_brings settings _ limit, sent, rfl, rfl, by decide +kernel,
    nothing_exempted { settings with ignored := [] } rfl _ _ .ingresses barePost rfl path⟩

end Service
end Gatehouse
