import Gatehouse.Endpoint.OfPolicy
import Gatehouse.Http.Router
import Gatehouse.Settings.Configuration

/- The endpoints of the service: one path for each policy as it was set, one that lists the paths, and one that tells
   that the service is up. -/
namespace Gatehouse.Service

def pathStart : String := "/admission-control/"

def policies (settings : Settings) : List (String × Policy) :=
  [("deny-ingresses", .ingresses settings.ignored),
    ("deny-public-services", .publicServices),
    ("enforce-pod-annotations", .podAnnotations settings.ignored settings.requirements),
    ("add-autoscaler-annotation", .autoscaler settings.ignored),
    ("deny-public-load-balancers", .loadBalancers settings.ignored (.known settings.provider))] ++
    CloudProvider.all.map fun provider =>
      ("deny-public-services/" ++ provider.name, .loadBalancers settings.ignored (.known provider))

def endpointOf (settings : Settings) (policy : Policy) : Endpoint :=
  .ofPolicy .standard policy (Endpoint.effectiveLimit (some settings.server.limit.bytes))

def endpoints (settings : Settings) : List (String × Endpoint) :=
  (policies settings).map fun (name, policy) => (pathStart ++ name, endpointOf settings policy)

def answerOf : Answer → Http.Answer
  | .review body => ⟨200, some Http.Answer.jsonType, [], none, body⟩
  | .failed => .broken

-- The answer of an endpoint to a request that came in over its path.
def serve (endpoint : Endpoint) (delivery : Delivery) : Told Refusal Http.Answer :=
  let (_, told, answer) := endpoint.handle 0 delivery
  ⟨told, .ok (answerOf answer)⟩

def sortedPaths (paths : List String) : List String := paths.mergeSort fun a b => decide (a ≤ b)

def index (settings : Settings) : Json :=
  .object [("endpoints", .array ((sortedPaths ((endpoints settings).map Prod.fst)).map .string))]

def routes (settings : Settings) : Http.Router :=
  ⟨"/healthz", ["GET"], fun _ => pure (.text "OK")⟩ ::
    ⟨"/", ["GET"], fun _ => pure (.json 200 (index settings))⟩ ::
    (endpoints settings).map fun (path, endpoint) => ⟨path, ["POST"], serve endpoint⟩

-- The service that a configuration is made into.
def build (machine : Machine) (configuration : Configuration) : Except (Halt PatternText.Invalid) Http.Router :=
  (configuration.compiled machine).map routes

-- What is told when the routes are set up.
def registered (settings : Settings) : Journal :=
  (endpoints settings).map fun (path, endpoint) => ⟨.debug, "Registered " ++ endpoint.label ++ " at " ++ path⟩

end Gatehouse.Service
