import Gatehouse.Proofs.Policy.Basic

/- When an object that runs Pods is let in. Outside the exempt namespaces every required annotation has to be on the
   Pods themselves, with a value that is accepted; a refusal lists every one that is not, once, in the order of the
   keys. A requirement without a predicate is never met and never overlooked: the first one refuses everything. -/
namespace Gatehouse.Policy

section Requirements

variable (annotations : Labels)

-- What is wrong with a required key, if anything.
def lackOf : String × Option Predicate → Option (String × Lack)
  | (_, none) => none
  | (key, some accepts) =>
    match lastOf annotations key with
    | none => some (key, .notFound)
    | some value => if accepts value then none else some (key, .mismatch)

def Usable (required : Requirements) : Prop := ∀ entry ∈ required, entry.2 ≠ none

theorem lacks_usable (required : Requirements) (usable : Usable required) :
    lacks annotations required = .ok (required.filterMap (lackOf annotations)) := by
  induction required with
  | nil => rfl
  | cons entry rest ih =>
    obtain ⟨key, predicate⟩ := entry
    have later := ih fun entry member => usable entry (List.mem_cons_of_mem _ member)
    cases predicate with
    | none => exact absurd rfl (usable (key, none) List.mem_cons_self)
    | some accepts =>
      rw [lacks, later, Except.map]
      cases found : lastOf annotations key with
      | none => simp [lackOf, found]
      | some value => by_cases accepted : accepts value = true <;> simp [lackOf, found, accepted]

theorem lacks_unusable (before after : Requirements) (key : String) (usable : Usable before) :
    lacks annotations (before ++ (key, none) :: after) = .error (.nilPredicate key) := by
  induction before with
  | nil => rfl
  | cons entry rest ih =>
    obtain ⟨first, predicate⟩ := entry
    have later := ih fun entry member => usable entry (List.mem_cons_of_mem _ member)
    cases predicate with
    | none => exact absurd rfl (usable (first, none) List.mem_cons_self)
    | some accepts =>
      rw [List.cons_append, lacks, later]
      rfl

-- A required key that is missing, or has a value that is not accepted.
inductive Lacking (required : Requirements) : String → Lack → Prop where
  | notFound (key : String) (accepts : Predicate) (asked : (key, some accepts) ∈ required)
    (absent : lastOf annotations key = none) : Lacking required key .notFound
  | mismatch (key value : String) (accepts : Predicate) (asked : (key, some accepts) ∈ required)
    (present : lastOf annotations key = some value) (refused : accepts value = false) :
    Lacking required key .mismatch

theorem lack_of_lacking (required : Requirements) (key : String) (lack : Lack) :
    (key, lack) ∈ required.filterMap (lackOf annotations) ↔ Lacking annotations required key lack := by
  rw [List.mem_filterMap]
  constructor
  · intro ⟨⟨asked, predicate⟩, member, same⟩
    cases predicate with
    | none => cases same
    | some accepts =>
      cases found : lastOf annotations asked with
      | none =>
        simp only [lackOf, found, Option.some.injEq, Prod.mk.injEq] at same
        obtain ⟨rfl, rfl⟩ := same
        exact .notFound asked accepts member found
      | some value =>
        by_cases accepted : accepts value = true
        · simp [lackOf, found, accepted] at same
        · simp only [lackOf, found, if_neg accepted, Option.some.injEq, Prod.mk.injEq] at same
          obtain ⟨rfl, rfl⟩ := same
          exact .mismatch asked value accepts member found (by simpa using accepted)
  · intro lacking
    cases lacking with
    | notFound accepts asked absent => exact ⟨(key, some accepts), asked, by simp [lackOf, absent]⟩
    | mismatch value accepts asked present refused =>
      exact ⟨(key, some accepts), asked, by simp [lackOf, present, refused]⟩

theorem lack_of_key (entry : String × Option Predicate) (found : String × Lack)
    (lacking : lackOf annotations entry = some found) : found.1 = entry.1 := by
  obtain ⟨key, predicate⟩ := entry
  cases predicate with
  | none => cases lacking
  | some accepts =>
    rw [lackOf] at lacking
    split at lacking
    · cases lacking
      rfl
    · split at lacking
      · cases lacking
      · cases lacking
        rfl

theorem lacks_keys (required : Requirements) :
    (keysOf (required.filterMap (lackOf annotations))).Sublist (keysOf required) := by
  induction required with
  | nil => exact List.Sublist.refl _
  | cons entry rest ih =>
    rw [List.filterMap_cons]
    cases found : lackOf annotations entry with
    | none => exact ih.cons _
    | some lack =>
      rw [keys_of_cons, keys_of_cons, lack_of_key annotations entry lack found]
      exact ih.cons_cons _

-- Every required key is there, with a value that its predicate accepts.
def Met (required : Requirements) : Prop :=
  ∀ entry ∈ required, ∃ accepts value,
    entry.2 = some accepts ∧ lastOf annotations entry.1 = some value ∧ accepts value = true

theorem met_usable (required : Requirements) (met : Met annotations required) : Usable required := by
  intro entry member missing
  obtain ⟨accepts, _, given, _⟩ := met entry member
  rw [given] at missing
  cases missing

theorem met_none_lacking (required : Requirements) (usable : Usable required) :
    required.filterMap (lackOf annotations) = [] ↔ Met annotations required := by
  rw [List.filterMap_eq_nil_iff]
  apply forall₂_congr
  intro entry member
  obtain ⟨key, predicate⟩ := entry
  cases predicate with
  | none => exact absurd rfl (usable _ member)
  | some accepts => cases found : lastOf annotations key <;> simp [lackOf, found]

end Requirements

theorem sorted_lacks_perm (found : List (String × Lack)) : (sortedLacks found).Perm found :=
  List.mergeSort_perm _ _

theorem sorted_lacks_strict (found : List (String × Lack)) (distinct : (keysOf found).Nodup) :
    (sortedLacks found).Pairwise fun left right => left.1 < right.1 := by
  have apart : (keysOf (sortedLacks found)).Nodup := ((sorted_lacks_perm found).map Prod.fst).nodup_iff.mpr distinct
  have ordered : (sortedLacks found).Pairwise fun left right => left.1 ≤ right.1 := by
    have sorted := @List.pairwise_mergeSort (String × Lack) (fun left right => Decidable.decide (left.1 ≤ right.1))
      (fun first second third low high => by simpa using String.le_trans (by simpa using low) (by simpa using high))
      (fun left right => by simpa using String.le_total left.1 right.1) found
    apply sorted.imp
    intro left right low
    exact of_decide_eq_true low
  exact ordered.imp₂ (fun left right => Std.lt_of_le_of_ne) (List.pairwise_map.mp apart)

-- An object that the policy reads, by the namespace it is in and the annotations of its Pods.
inductive PodBearer (request : Request) : String → Labels → Prop where
  | pod (object : Object PodSpec) (kind : request.kind.kind = "Pod")
    (decoded : (Codec.decodeObjectAs .pod request).outcome = .ok object) :
    PodBearer request (effectiveNamespace request object) (object.metadata.annotations.getD [])
  | deployment (object : Object WorkloadSpec) (kind : request.kind.kind = "Deployment")
    (decoded : (Codec.decodeObjectAs .deployment request).outcome = .ok object) :
    PodBearer request (effectiveNamespace request object) (object.spec.template.metadata.annotations.getD [])
  | statefulSet (object : Object WorkloadSpec) (kind : request.kind.kind = "StatefulSet")
    (decoded : (Codec.decodeObjectAs .statefulSet request).outcome = .ok object) :
    PodBearer request (effectiveNamespace request object) (object.spec.template.metadata.annotations.getD [])
  | daemonSet (object : Object WorkloadSpec) (kind : request.kind.kind = "DaemonSet")
    (decoded : (Codec.decodeObjectAs .daemonSet request).outcome = .ok object) :
    PodBearer request (effectiveNamespace request object) (object.spec.template.metadata.annotations.getD [])
  | job (object : Object JobSpec) (kind : request.kind.kind = "Job")
    (decoded : (Codec.decodeObjectAs .job request).outcome = .ok object) :
    PodBearer request (effectiveNamespace request object) (object.spec.template.metadata.annotations.getD [])

theorem registered_bearer (request : Request) (kind : String) (type : ResourceClass) (object : Object type.Spec)
    (asked : request.kind.kind = kind) (registered : Scheme.standard.lookup kind = some type)
    (decoded : (Codec.decodeObjectAs type request).outcome = .ok object) :
    (Codec.standard.decodeObject request).outcome = .ok ⟨type, object⟩ := by
  apply decode_object_found
  · rw [asked]
    exact registered
  · exact decoded

theorem bearer_decoded (request : Request) (nameSpace : String) (annotations : Labels)
    (bearer : PodBearer request nameSpace annotations) : request.kind.kind ∈ podKinds ∧ ∃ resource,
      (Codec.standard.decodeObject request).outcome = .ok resource ∧ resource.podAnnotations? = some annotations ∧
        effectiveNamespace request resource.object = nameSpace := by
  cases bearer with
  | pod object kind decoded =>
    refine ⟨by simp [kind, podKinds], ⟨.pod, object⟩, ?_, rfl, rfl⟩
    exact registered_bearer request "Pod" .pod object kind rfl decoded
  | deployment object kind decoded =>
    refine ⟨by simp [kind, podKinds], ⟨.deployment, object⟩, ?_, rfl, rfl⟩
    exact registered_bearer request "Deployment" .deployment object kind rfl decoded
  | statefulSet object kind decoded =>
    refine ⟨by simp [kind, podKinds], ⟨.statefulSet, object⟩, ?_, rfl, rfl⟩
    exact registered_bearer request "StatefulSet" .statefulSet object kind rfl decoded
  | daemonSet object kind decoded =>
    refine ⟨by simp [kind, podKinds], ⟨.daemonSet, object⟩, ?_, rfl, rfl⟩
    exact registered_bearer request "DaemonSet" .daemonSet object kind rfl decoded
  | job object kind decoded =>
    refine ⟨by simp [kind, podKinds], ⟨.job, object⟩, ?_, rfl, rfl⟩
    exact registered_bearer request "Job" .job object kind rfl decoded

theorem other_kind_unsupported (codec : Codec) (ignored : Namespaces) (required : Requirements) (request : Request)
    (other : request.kind.kind ∉ podKinds) : (enforcePodAnnotations codec ignored required request).outcome =
      .error (.violation (.unsupportedKind request.kind.kind)) := by
  have unlisted : (!podKinds.contains request.kind.kind) = true := by simpa using other
  rw [enforcePodAnnotations, if_pos unlisted]
  rfl

-- What becomes of an object of which this is lacking.
def judgement : Except Misconfiguration (List (String × Lack)) → Except Refusal Response
  | .error cause => .error (.misconfigured cause)
  | .ok [] => .ok admitted
  | .ok (first :: rest) => .error (.violation (.missingAnnotations (sortedLacks (first :: rest))))

theorem bearer_outcome (ignored : Namespaces) (required : Requirements) (request : Request) (nameSpace : String)
    (annotations : Labels) (bearer : PodBearer request nameSpace annotations) (unlisted : nameSpace ∉ ignored) :
    (enforcePodAnnotations .standard ignored required request).outcome = judgement (lacks annotations required) := by
  obtain ⟨kind, resource, decoded, carried, rfl⟩ := bearer_decoded request nameSpace annotations bearer
  have listed : (!podKinds.contains request.kind.kind) = false := by simpa using kind
  rw [enforcePodAnnotations]
  simp only [listed, Bool.false_eq_true, if_false]
  rw [Told.bind_found _ _ resource decoded]
  simp only [carried, List.contains_eq_mem, unlisted, decide_false, Bool.false_eq_true, if_false]
  cases found : lacks annotations required with
  | error cause => rfl
  | ok lacking =>
    cases lacking with
    | nil => rfl
    | cons first rest => rfl

-- A lack as the refusal tells it.
def lackText : String × Lack → String
  | (key, .notFound) => key ++ ": key was not found"
  | (key, .mismatch) => key ++ ": value did not match"

theorem lack_details (listed : List (String × Lack)) :
    lackDetails listed = String.intercalate ", " (listed.map lackText) := by
  rw [lackDetails]
  apply congrArg (String.intercalate ", ")
  apply List.map_congr_left
  intro entry _
  obtain ⟨key, lack⟩ := entry
  cases lack with
  | notFound => exact String.append_assoc
  | mismatch => exact String.append_assoc

theorem missing_message (listed : List (String × Lack)) : (Violation.missingAnnotations listed).message =
    "the submitted Pods are missing required annotations: " ++ String.intercalate ", " (listed.map lackText) := by
  rw [Violation.message, lack_details]
  simp [Message.text, Message.withValue, Message.pieces, String.join]

theorem lacking_judged (annotations : Labels) (required : Requirements) (usable : Usable required)
    (unmet : ¬ Met annotations required) : judgement (lacks annotations required) =
      .error (.violation (.missingAnnotations (sortedLacks (required.filterMap (lackOf annotations))))) := by
  rw [lacks_usable annotations required usable]
  cases found : required.filterMap (lackOf annotations) with
  | nil => exact absurd ((met_none_lacking annotations required usable).mp found) unmet
  | cons first rest => rfl

theorem met_judged (annotations : Labels) (required : Requirements) (met : Met annotations required) :
    judgement (lacks annotations required) = .ok admitted := by
  have usable := met_usable annotations required met
  rw [lacks_usable annotations required usable, (met_none_lacking annotations required usable).mpr met]
  rfl

structure PodAnnotationsJudged (ignored : Namespaces) (required : Requirements) (request : Request)
    (outcome : Except Refusal Response) : Prop where
  otherKind : request.kind.kind ∉ ["Pod", "Deployment", "StatefulSet", "DaemonSet", "Job"] →
    outcome = .error (.violation (.unsupportedKind request.kind.kind))
  unusable : ∀ nameSpace annotations before key after, PodBearer request nameSpace annotations →
    nameSpace ∉ ignored → required = before ++ (key, none) :: after → (∀ entry ∈ before, entry.2 ≠ none) →
      outcome = .error (.misconfigured (.nilPredicate key))
  met : ∀ nameSpace annotations, PodBearer request nameSpace annotations → nameSpace ∉ ignored →
    Met annotations required → outcome = .ok admitted
  unmet : ∀ nameSpace annotations, PodBearer request nameSpace annotations → nameSpace ∉ ignored →
    (∀ entry ∈ required, entry.2 ≠ none) → ¬ Met annotations required → ∃ refusal, ∃ listed : List (String × Lack),
      outcome = .error refusal ∧ refusal.name = "PolicyViolation" ∧
      refusal.message = "the submitted Pods are missing required annotations: " ++
        String.intercalate ", " (listed.map lackText) ∧
      (∀ key lack, (key, lack) ∈ listed ↔ Lacking annotations required key lack) ∧
      listed.Pairwise fun left right => left.1 < right.1

theorem pod_annotations_judged (ignored : Namespaces) (required : Requirements) (distinct : (keysOf required).Nodup)
    (review : Review) (request : Request) (asked : review.request = some request) :
    PodAnnotationsJudged ignored required request
      (decide .standard (.podAnnotations ignored required) (some review)).outcome := by
  rw [decide_asked _ _ review request asked, decision]
  constructor
  · intro other
    exact other_kind_unsupported _ ignored required request other
  · intro nameSpace annotations before key after bearer unlisted parts usable
    rw [bearer_outcome ignored required request nameSpace annotations bearer unlisted, parts,
      lacks_unusable annotations before after key usable]
    rfl
  · intro nameSpace annotations bearer unlisted met
    rw [bearer_outcome ignored required request nameSpace annotations bearer unlisted]
    exact met_judged annotations required met
  · intro nameSpace annotations bearer unlisted usable unmet
    rw [bearer_outcome ignored required request nameSpace annotations bearer unlisted,
      lacking_judged annotations required usable unmet]
    refine ⟨_, _, rfl, rfl, missing_message _, ?_, ?_⟩
    · intro key lack
      rw [← lack_of_lacking annotations required key lack]
      exact (sorted_lacks_perm _).mem_iff
    · apply sorted_lacks_strict
      exact (lacks_keys annotations required).nodup distinct

/- A Deployment that carries what is required itself, but does not give it to its Pods. -/

def outerAnnotated : Members :=
  [("metadata", .object [("annotations", .object [("team", .string "core"), ("owner", .string "ann")])]),
    ("spec", .object [("template", .object [("metadata", .object [("annotations", .object [("team", .string "web")])])])])]

def outerDeployment : Object WorkloadSpec :=
  ⟨none, none, ⟨none, none, none, none, none, some [("team", "core"), ("owner", "ann")]⟩,
    ⟨none, ⟨⟨none, none, none, none, none, some [("team", "web")]⟩, PodSpec.empty⟩⟩⟩

def teamAndOwner : Requirements := [("team", some (· == "core")), ("owner", some fun _ => true)]

theorem outer_bearer : PodBearer (requestFor "Deployment" outerAnnotated) "" [("team", "web")] := by
  have fits : (Json.object outerAnnotated).Fits nestingRoom := by simp [outerAnnotated, nestingRoom, Json.AllFit]
  have decoded := request_decodes "Deployment" outerAnnotated .deployment outerDeployment (by simp [outerAnnotated]) fits
    rfl
  exact .deployment outerDeployment rfl decoded

theorem team_and_owner_unmet : ¬ Met [("team", "web")] teamAndOwner := by
  intro met
  obtain ⟨accepts, value, _, present, _⟩ := met _ (List.mem_cons_of_mem _ List.mem_cons_self)
  cases present

theorem outer_annotations_refused :
    (keysOf teamAndOwner).Nodup ∧ PodBearer (requestFor "Deployment" outerAnnotated) "" [("team", "web")] ∧
    "" ∉ ["kube-system"] ∧ (∀ entry ∈ teamAndOwner, entry.2 ≠ none) ∧ ¬ Met [("team", "web")] teamAndOwner ∧
    ∃ refusal, ∃ listed : List (String × Lack),
      (decide .standard (.podAnnotations ["kube-system"] teamAndOwner)
        (some (reviewFor "Deployment" outerAnnotated))).outcome = .error refusal ∧
      refusal.name = "PolicyViolation" ∧
      refusal.message = "the submitted Pods are missing required annotations: " ++
        String.intercalate ", " (listed.map lackText) ∧
      (∀ key lack, (key, lack) ∈ listed ↔ Lacking [("team", "web")] teamAndOwner key lack) ∧
      listed.Pairwise fun left right => left.1 < right.1 := by
  have distinct : (keysOf teamAndOwner).Nodup := by simp [keysOf, teamAndOwner]
  have usable : ∀ entry ∈ teamAndOwner, entry.2 ≠ none := by simp [teamAndOwner]
  have judged := pod_annotations_judged ["kube-system"] teamAndOwner distinct (reviewFor "Deployment" outerAnnotated)
    (requestFor "Deployment" outerAnnotated) rfl
  exact ⟨distinct, outer_bearer, by simp, usable, team_and_owner_unmet,
    judged.unmet _ _ outer_bearer (by simp) usable team_and_owner_unmet⟩

end Gatehouse.Policy
