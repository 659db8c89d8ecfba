import Gatehouse.Policy.Basic

/- Pods must carry the required annotations, each with a value that its predicate accepts. For a controller of Pods
   the annotations are those of its template. -/
namespace Gatehouse.Policy

abbrev Predicate := String → Bool

-- A key without a predicate is a misconfiguration, found when a review is decided.
abbrev Requirements := List (String × Option Predicate)

def podKinds : List String := ["Pod", "Deployment", "StatefulSet", "DaemonSet", "Job"]

-- What the annotations lack, in the order of the requirements.
def lacks (annotations : Labels) : Requirements → Except Misconfiguration (List (String × Lack))
  | [] => .ok []
  | (key, none) :: _ => .error (.nilPredicate key)
  | (key, some accepts) :: rest =>
    (lacks annotations rest).map fun later =>
      match lastOf annotations key with
      | none => (key, .notFound) :: later
      | some value => if accepts value then later else (key, .mismatch) :: later

def sortedLacks (found : List (String × Lack)) : List (String × Lack) :=
  found.mergeSort fun a b => decide (a.1 ≤ b.1)

def enforcePodAnnotations (codec : Codec) (ignored : Namespaces) (required : Requirements) : Decision :=
  fun request => do
    let kind := request.kind.kind
    if !podKinds.contains kind then Told.fail (.violation (.unsupportedKind kind))
    else
      let resource ← codec.decodeObject request
      match resource.podAnnotations? with
      | none => Told.fail (.violation (.unsupportedKind kind))
      | some annotations =>
        let nameSpace := effectiveNamespace request resource.object
        if ignored.contains nameSpace then return allowedWhitelisted nameSpace
        else
          match lacks annotations required with
          | .error cause => Told.fail (.misconfigured cause)
          | .ok [] => return allowed denied
          | .ok found =>
            let sorted := sortedLacks found
            Told.tell .debug (kind ++ " " ++ nameSpace ++ "/" ++ resource.object.name ++
              " is missing annotations: " ++ lackDetails sorted)
            Told.fail (.violation (.missingAnnotations sorted))

end Gatehouse.Policy
