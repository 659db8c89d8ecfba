import Gatehouse.Policy.Autoscaler
import Gatehouse.Policy.LoadBalancer
import Gatehouse.Policy.PodAnnotations

/- The policies that come with the library, with their settings. -/
namespace Gatehouse

inductive Policy where
  | ingresses (ignored : Namespaces)
  | loadBalancers (ignored : Namespaces) (provider : ProviderSetting)
  | publicServices
  | podAnnotations (ignored : Namespaces) (required : Policy.Requirements)
  | autoscaler (ignored : Namespaces)

namespace Policy

def decision (codec : Codec) : Policy → Decision
  | .ingresses ignored => denyIngresses ignored
  | .loadBalancers ignored provider => denyPublicLoadBalancers ignored provider
  | .publicServices => denyPublicServices
  | .podAnnotations ignored required => enforcePodAnnotations codec ignored required
  | .autoscaler ignored => addAutoscalerMark ignored

def decide (codec : Codec) (policy : Policy) (review : Option Review) : Told Refusal Response :=
  reviewed (policy.decision codec) review

-- The policy with its settings, as the journal shows it.
def shown : Policy → String
  | .ingresses ignored => "DenyIngresses(" ++ shownIgnored ignored ++ ")"
  | .loadBalancers ignored provider =>
    "DenyPublicLoadBalancers(" ++ shownIgnored ignored ++ ", provider=" ++ provider.shown ++ ")"
  | .publicServices => "DenyPublicServices(" ++ shownIgnored [] ++ ")"
  | .podAnnotations ignored required =>
    "EnforcePodAnnotations(" ++ shownIgnored ignored ++ ", required_annotations=" ++
      Text.quotedItems (distinctNames (required.map Prod.fst)) ++ ")"
  | .autoscaler ignored => "AddAutoscalerAnnotation(" ++ shownIgnored ignored ++ ")"

end Policy
end Gatehouse
