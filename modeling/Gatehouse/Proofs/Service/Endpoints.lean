import Gatehouse.Proofs.Http.Router
import Gatehouse.Service.Endpoints

/- The endpoints of the service answer apart from each other: each is the endpoint of its own policy, and a setting
   changes the answers of those alone whose policy it is a part of. -/
namespace Gatehouse.Service

def names : List String :=
  ["deny-ingresses", "deny-public-services", "enforce-pod-annotations", "add-autoscaler-annotation",
    "deny-public-load-balancers", "deny-public-services/gcp", "deny-public-services/azure",
    "deny-public-services/aws", "deny-public-services/openstack"]

def paths : List String := "/healthz" :: "/" :: names.map (pathStart ++ ·)

/-- The policy that an endpoint is there for, by the name of the endpoint. -/
inductive Assigned (settings : Settings) : String → Policy → Prop where
  | ingresses : Assigned settings "deny-ingresses" (.ingresses settings.ignored)
  | publicServices : Assigned settings "deny-public-services" .publicServices
  | podAnnotations :
    Assigned settings "enforce-pod-annotations" (.podAnnotations settings.ignored settings.requirements)
  | autoscaler : Assigned settings "add-autoscaler-annotation" (.autoscaler settings.ignored)
  | configured :
    Assigned settings "deny-public-load-balancers" (.loadBalancers settings.ignored (.known settings.provider))
  | provider (provider : CloudProvider) :
    Assigned settings ("deny-public-services/" ++ provider.name) (.loadBalancers settings.ignored (.known provider))

-- What comes of a request that one endpoint answers.
def answered (endpoint : Endpoint) (request : Http.Request) : Journal × Http.Answer :=
  let (_, told, answer) := endpoint.handle 0 request.delivery
  (told ++ [⟨.info, Http.Router.shown request ++ " " ++ toString (answerOf answer).status⟩], answerOf answer)

/-- What a service keeps apart, with these settings and with others. -/
structure Isolated (settings : Settings) : Prop where
  own : ∀ name policy, Assigned settings name policy → ∀ request : Http.Request,
    request.method = "POST" → request.path = pathStart ++ name →
      (routes settings).handle request =
        answered (.ofPolicy .standard policy settings.server.limit.bytes.toNat) request
  each : ∀ path ∈ (endpoints settings).map Prod.fst, ∃ name policy, path = pathStart ++ name ∧
    Assigned settings name policy
  selected : ∀ configured named : Http.Request, configured.method = "POST" → named.method = "POST" →
    configured.path = pathStart ++ "deny-public-load-balancers" →
    named.path = pathStart ++ ("deny-public-services/" ++ settings.provider.name) →
    configured.delivery = named.delivery →
      ((routes settings).handle configured).2 = ((routes settings).handle named).2
  provider : ∀ other (request : Http.Request), request.path ≠ pathStart ++ "deny-public-load-balancers" →
    (routes { settings with provider := other }).handle request = (routes settings).handle request
  required : ∀ others (request : Http.Request), request.path ≠ pathStart ++ "enforce-pod-annotations" →
    (routes { settings with required := others }).handle request = (routes settings).handle request
  ignored : ∀ others (request : Http.Request), request.path = pathStart ++ "deny-public-services" →
    (routes { settings with ignored := others }).handle request = (routes settings).handle request

section

variable (settings : Settings)

theorem endpoints_paths : (endpoints settings).map Prod.fst = names.map (pathStart ++ ·) := rfl

theorem routes_paths : (routes settings).map Http.Route.path = paths := rfl

theorem paths_distinct : paths.Nodup := by decide +kernel

theorem limit_configured : Endpoint.effectiveLimit (some settings.server.limit.bytes) =
    settings.server.limit.bytes.toNat := if_pos settings.server.limit.positive

theorem policy_route (name : String) (policy : Policy) (member : (name, policy) ∈ policies settings) :
    ⟨pathStart ++ name, ["POST"], serve (endpointOf settings policy)⟩ ∈ routes settings := by
  refine List.mem_cons_of_mem _ (List.mem_cons_of_mem _ ?_)
  exact List.mem_map.mpr ⟨_, List.mem_map.mpr ⟨_, member, rfl⟩, rfl⟩

theorem every_provider (provider : CloudProvider) : provider ∈ CloudProvider.all := by cases provider <;> decide

theorem assigned_member (name : String) (policy : Policy) (assigned : Assigned settings name policy) :
    (name, policy) ∈ policies settings := by
  cases assigned with
  | ingresses => exact .head _
  | publicServices => exact .tail _ (.head _)
  | podAnnotations => exact .tail _ (.tail _ (.head _))
  | autoscaler => exact .tail _ (.tail _ (.tail _ (.head _)))
  | configured => exact .tail _ (.tail _ (.tail _ (.tail _ (.head _))))
  | provider provider =>
    exact List.mem_append_right _ (List.mem_map.mpr ⟨provider, every_provider provider, rfl⟩)

theorem member_assigned (entry : String × Policy) (member : entry ∈ policies settings) :
    Assigned settings entry.1 entry.2 := by
  rcases List.mem_append.mp member with fixed | listed
  · simp only [List.mem_cons, List.not_mem_nil, or_false] at fixed
    rcases fixed with rfl | rfl | rfl | rfl | rfl
    · exact .ingresses
    · exact .publicServices
    · exact .podAnnotations
    · exact .autoscaler
    · exact .configured
  · obtain ⟨provider, _, rfl⟩ := List.mem_map.mp listed
    exact .provider provider

theorem path_assigned (path : String) (member : path ∈ (endpoints settings).map Prod.fst) :
    ∃ name policy, path = pathStart ++ name ∧ Assigned settings name policy := by
  simp only [endpoints, List.map_map] at member
  obtain ⟨entry, listed, rfl⟩ := List.mem_map.mp member
  exact ⟨entry.1, entry.2, rfl, member_assigned settings entry listed⟩

theorem policy_answers (name : String) (policy : Policy) (assigned : Assigned settings name policy)
    (request : Http.Request) (post : request.method = "POST") (path : request.path = pathStart ++ name) :
    (routes settings).handle request =
      answered (.ofPolicy .standard policy settings.server.limit.bytes.toNat) request := by
  have responds : (routes settings).respond request = serve (endpointOf settings policy) request.delivery := by
    rw [Http.Router.respond_alone _ request _ (routes_paths settings ▸ paths_distinct)
      (policy_route settings name policy (assigned_member settings name policy assigned)) path.symm, post]
    rfl
  simp only [Http.Router.handle, responds, serve, endpointOf, limit_configured]
  rfl

theorem configured_answers (configured named : Http.Request) (post : configured.method = "POST")
    (posted : named.method = "POST") (path : configured.path = pathStart ++ "deny-public-load-balancers")
    (other : named.path = pathStart ++ ("deny-public-services/" ++ settings.provider.name))
    (same : configured.delivery = named.delivery) :
    ((routes settings).handle configured).2 = ((routes settings).handle named).2 := by
  rw [policy_answers settings _ _ .configured configured post path,
    policy_answers settings _ _ (.provider settings.provider) named posted other]
  simp only [answered, same]

end

section

variable (mine theirs : Settings) (request : Http.Request)

-- Two policies of one name, alike unless the name is asked for.
def Alike (request : Http.Request) (mine theirs : String × Policy) : Prop :=
  mine.1 = theirs.1 ∧ (pathStart ++ mine.1 = request.path → mine = theirs)

theorem alike_self (policy : String × Policy) : Alike request policy policy := ⟨rfl, fun _ => rfl⟩

theorem alike_elsewhere (name : String) (policy other : Policy) (elsewhere : request.path ≠ pathStart ++ name) :
    Alike request (name, policy) (name, other) := ⟨rfl, fun here => absurd here.symm elsewhere⟩

theorem alike_handled (limit : mine.server.limit = theirs.server.limit)
    (alike : List.Forall₂ (Alike request) (policies mine) (policies theirs)) :
    (routes mine).handle request = (routes theirs).handle request := by
  have endpointsAlike : List.Forall₂ (Http.Route.Alike request)
      ((endpoints mine).map fun entry => ⟨entry.1, ["POST"], serve entry.2⟩)
      ((endpoints theirs).map fun entry => ⟨entry.1, ["POST"], serve entry.2⟩) := by
    simp only [endpoints, List.map_map, List.forall₂_map_left_iff, List.forall₂_map_right_iff]
    refine alike.imp fun entry other same => ⟨congrArg (pathStart ++ ·) same.1, fun here => ?_⟩
    obtain rfl := same.2 here
    simp only [Function.comp_apply, endpointOf, limit]
  have index : index mine = index theirs := by rw [index, index, endpoints_paths, endpoints_paths]
  refine Http.Router.handle_alike _ _ request (.cons ⟨rfl, fun _ => rfl⟩ (.cons ⟨rfl, fun _ => ?_⟩ endpointsAlike))
  rw [index]

theorem same_handled (route : Http.Route) (member : route ∈ routes mine) (other : route ∈ routes theirs)
    (path : route.path = request.path) : (routes mine).handle request = (routes theirs).handle request := by
  simp only [Http.Router.handle,
    Http.Router.respond_alone _ request route (routes_paths mine ▸ paths_distinct) member path,
    Http.Router.respond_alone _ request route (routes_paths theirs ▸ paths_distinct) other path]

end

section

variable (settings : Settings) (request : Http.Request)

theorem provider_elsewhere (other : CloudProvider)
    (elsewhere : request.path ≠ pathStart ++ "deny-public-load-balancers") :
    (routes { settings with provider := other }).handle request = (routes settings).handle request := by
  refine alike_handled _ _ request rfl
    (List.rel_append ?_ (List.forall₂_same.mpr fun entry _ => alike_self request entry))
  exact .cons (alike_self _ _) (.cons (alike_self _ _) (.cons (alike_self _ _) (.cons (alike_self _ _)
    (.cons (alike_elsewhere request _ _ _ elsewhere) .nil))))

theorem required_elsewhere (others : List RequiredAnnotation)
    (elsewhere : request.path ≠ pathStart ++ "enforce-pod-annotations") :
    (routes { settings with required := others }).handle request = (routes settings).handle request := by
  refine alike_handled _ _ request rfl (.cons (alike_self _ _) (.cons (alike_self _ _)
    (.cons (alike_elsewhere request _ _ _ elsewhere) (List.forall₂_same.mpr fun entry _ => alike_self request entry))))

theorem ignored_unheeded (others : Namespaces) (path : request.path = pathStart ++ "deny-public-services") :
    (routes { settings with ignored := others }).handle request = (routes settings).handle request :=
  same_handled _ _ request _
    (policy_route { settings with ignored := others } _ _ (assigned_member _ _ _ .publicServices))
    (policy_route settings _ _ (assigned_member _ _ _ .publicServices)) path.symm

theorem service_isolated : Isolated settings where
  own := policy_answers settings
  each := path_assigned settings
  selected := configured_answers settings
  provider other request elsewhere := provider_elsewhere settings request other elsewhere
  required others request elsewhere := required_elsewhere settings request others elsewhere
  ignored others request path := ignored_unheeded settings request others path

end
end Gatehouse.Service
