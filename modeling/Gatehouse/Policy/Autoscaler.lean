import Gatehouse.Patch.Pointer
import Gatehouse.Policy.Basic

/- Pods are marked as safe to evict for the cluster autoscaler, by a patch that fits the shape of the Pod: the whole
   map is added when there is none. -/
namespace Gatehouse.Policy

def safeToEvict : String := "cluster-autoscaler.kubernetes.io/safe-to-evict"

def evictionPatch (annotations : Option Labels) : Patch :=
  match annotations with
  | none => [⟨.add, "/metadata/annotations", .object [(safeToEvict, .string "true")]⟩]
  | some _ => [⟨.replace, "/metadata/annotations/" ++ Pointer.escape safeToEvict, .string "true"⟩]

def addAutoscalerMark (ignored : Namespaces) : Decision := fun request => do
  let kind := request.kind.kind
  if kind != "Pod" then return allowedSaying denied (Message.withValue .notAPod kind)
  else
    let pod ← objectAs .pod request
    let nameSpace := effectiveNamespace request pod
    if ignored.contains nameSpace then return allowedWhitelisted nameSpace
    else if (lastOf pod.annotations safeToEvict).isSome then return allowed denied
    else
      Told.tell .debug ("Adding " ++ safeToEvict ++ " to Pod " ++ nameSpace ++ "/" ++ pod.name)
      let patch := (evictionPatch pod.metadata.annotations).encode
      return allowed { denied with patch := some patch, patchType := some .jsonPatch }

end Gatehouse.Policy
