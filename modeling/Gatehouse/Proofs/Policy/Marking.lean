import Gatehouse.Proofs.Policy.Autoscaler
import Gatehouse.Proofs.Policy.Exemption
import Gatehouse.Proofs.Relocation

/- When a Pod is marked, and what its patch does where it can be applied: one annotation is set, in a map that is made
   for it if need be, and all else stays as it stood. The marked Pod is then let in as it is. -/
namespace Gatehouse

theorem put_fits (room : Nat) (members : Members) (key : String) (json : Json) (fits : Json.AllFit room members)
    (inside : json.Fits room) : Json.AllFit room (put members key json) := by
  intro entry member
  rcases put_member members key json entry member with rfl | kept
  · exact inside
  · exact fits entry kept

/-- One member is given a value; all others stand as they stood, in their order. -/
structure SetsOnly (key : String) (value : Json) (before after : Members) : Prop where
  given : lastOf after key = some value
  once : (keysOf after).Nodup
  others : after.filter (fun entry => entry.1 != key) = before.filter fun entry => entry.1 != key

theorem put_sets_only (members : Members) (key : String) (value : Json) (distinct : (keysOf members).Nodup) :
    SetsOnly key value members (put members key value) where
  given := by rw [last_of_put _ _ _ _ distinct, if_pos rfl]
  once := put_distinct members key value distinct
  others := put_others members key value

/- An object is read as before but for the member that is set. -/

theorem put_apart (members : Members) (key : String) (json : Json) (distinct : (keysOf members).Nodup)
    (keys : List String) (foreign : key ∉ keys) : ∀ other ∈ keys, lastOf (put members key json) other = lastOf members other := by
  intro other member
  have different : key ≠ other := fun same => foreign (same ▸ member)
  rw [last_of_put _ _ _ _ distinct, if_neg different]

theorem part_read {α : Type} (field : Field α) (shape : Shape α) (members : Members) (json : Json) (value : α)
    (located : lastOf members field.key = some json) (read : shape.read json = .ok value) :
    field.part shape members = .ok value := by
  rw [Field.part, find_own field members json located]
  exact (Checked.under_ok _ _ _).mpr read

theorem annotated_read (members entries : Members) (metadata : Metadata) (labels : Labels)
    (distinct : (keysOf members).Nodup) (read : Metadata.shape.read (.object members) = .ok metadata)
    (mapped : labelsShape.read (.object entries) = .ok labels) :
    Metadata.shape.read (.object (put members "annotations" (.object entries))) =
      .ok { metadata with annotations := some labels } := by
  have apart := put_apart members "annotations" (.object entries) distinct
  obtain ⟨⟨name, generateName, nameSpace, uid, ownLabels, _, _⟩, found, accepted⟩ := (record_read _ _ _ _ _ _).mp read
  obtain ⟨rfl, _⟩ := (ruled_ok _ _ _).mp accepted
  refine (record_read _ _ _ _ _ _).mpr ⟨(name, generateName, nameSpace, uid, ownLabels, some labels, ()), ?_, rfl⟩
  simp only [Fields.optional, fields_read_parts, Checked.both_ok] at found ⊢
  obtain ⟨nameRead, generateNameRead, nameSpaceRead, uidRead, labelsRead, _⟩ := found
  refine ⟨(part_same _ _ _ _ (apart _ (by decide))).trans nameRead,
    (part_same _ _ _ _ (apart _ (by decide))).trans generateNameRead,
    (part_same _ _ _ _ (apart _ (by decide))).trans nameSpaceRead,
    (part_same _ _ _ _ (apart _ (by decide))).trans uidRead,
    (part_same _ _ _ _ (apart _ (by decide))).trans labelsRead, ?_, rfl⟩
  refine part_read _ _ _ (.object entries) _ ?_ ((optional_read _ _ _).mpr (.inr ⟨rfl, labels, mapped, rfl⟩))
  exact (last_of_put members "annotations" "annotations" _ distinct).trans (if_pos rfl)

theorem object_read_with {σ : Type} (spec : Shape σ) (absent : σ) (members : Members) (object : Object σ)
    (json : Json) (metadata : Metadata) (distinct : (keysOf members).Nodup)
    (read : (Object.shape spec absent).read (.object members) = .ok object)
    (inner : Metadata.shape.read json = .ok metadata) :
    (Object.shape spec absent).read (.object (put members "metadata" json)) =
      .ok { object with metadata := metadata } := by
  have apart := put_apart members "metadata" json distinct
  obtain ⟨⟨apiVersion, kind, _, content, _⟩, found, accepted⟩ := (record_read _ _ _ _ _ _).mp read
  obtain ⟨rfl, _⟩ := (ruled_ok _ _ _).mp accepted
  refine (record_read _ _ _ _ _ _).mpr ⟨(apiVersion, kind, metadata, content, ()), ?_, rfl⟩
  simp only [Object.fields, Fields.optional, fields_read_parts, Checked.both_ok] at found ⊢
  obtain ⟨apiVersionRead, kindRead, _, contentRead, _⟩ := found
  refine ⟨(part_same _ _ _ _ (apart _ (by decide))).trans apiVersionRead,
    (part_same _ _ _ _ (apart _ (by decide))).trans kindRead, ?_,
    (part_same _ _ _ _ (apart _ ?_)).trans contentRead, rfl⟩
  · refine part_read _ _ _ json _ ?_ inner
    exact (last_of_put members "metadata" "metadata" _ distinct).trans (if_pos rfl)
  · simp [Field.keys, Field.default, snake]

theorem decoded_as_fits (type : ResourceClass) (request : Request) (object : Object type.Spec) (members : Members)
    (decoded : (Codec.decodeObjectAs type request).outcome = .ok object) (submitted : request.object = some members) :
    (Json.object members).Fits nestingRoom := by
  by_contra deep
  obtain ⟨other, found, nonempty, _⟩ := decoded_as_submitted type request object decoded
  obtain rfl : members = other := Option.some.inj (submitted.symm.trans found)
  have refused := unparsed_decoded (Target.resource type).shape (Target.resource type).title _
    (raw_object_filled request members submitted nonempty) (raw_object_unparsed request members submitted nonempty deep)
  cases decoded.symm.trans refused

namespace Policy

-- The annotations that metadata have: those of the map, and none where there is nothing or null.
inductive Annotated (metadata : Members) : Members → Prop where
  | absent (missing : lastOf metadata "annotations" = none) : Annotated metadata []
  | null (present : lastOf metadata "annotations" = some .null) : Annotated metadata []
  | map (entries : Members) (present : lastOf metadata "annotations" = some (.object entries)) :
    Annotated metadata entries

/-- The members of an object and those it has when nothing but the annotation that marks it is set. -/
inductive Marked : Members → Members → Prop where
  | set (members metadata entries others changed annotations : Members)
    (located : lastOf members "metadata" = some (.object metadata)) (annotated : Annotated metadata entries)
    (unmarked : lastOf entries safeToEvict = none)
    (mark : SetsOnly safeToEvict (.string "true") entries annotations)
    (inner : SetsOnly "annotations" (.object annotations) metadata changed)
    (outer : SetsOnly "metadata" (.object changed) members others) : Marked members others

-- The object with the map that marks it.
def markedMembers (members metadata : Members) : Members :=
  put members "metadata" (.object (put metadata "annotations" (.object [(safeToEvict, .string "true")])))

theorem edit_applied (members : Members) (pod : Object PodSpec) (result : Json)
    (settled : (Json.object members).collapsed = .object members)
    (read : ResourceClass.pod.shape.read (.object members) = .ok pod)
    (unmarked : lastOf pod.annotations safeToEvict = none)
    (applied : (evictionEdit pod.metadata.annotations).1.along (evictionEdit pod.metadata.annotations).2
      (.object members) = some result) :
    ∃ metadata, lastOf members "metadata" = some (.object metadata) ∧ Annotated metadata [] ∧
      Metadata.shape.read (.object metadata) = .ok pod.metadata ∧ result = .object (markedMembers members metadata) := by
  have annotatable : Annotatable members := by
    by_contra refused
    rw [(eviction_edit_applies members pod settled read unmarked).2 refused] at applied
    cases applied
  obtain ⟨metadata, located, place⟩ := annotatable
  have bare : Annotated metadata [] := by
    rcases place with missing | null
    · exact .absent missing
    · exact .null null
  rcases object_metadata _ _ members pod read with ⟨absent, _⟩ | ⟨json, present, metadataRead⟩
  · rw [located] at absent
    cases absent
  · obtain rfl : Json.object metadata = json := Option.some.inj (located.symm.trans present)
    refine ⟨metadata, located, bare, metadataRead, ?_⟩
    rcases metadata_annotations metadata _ metadataRead with ⟨none, _⟩ | ⟨labels, entries, _, annotated, _⟩
    · rw [none, evictionEdit, Json.along_member _ _ _ _ _ _ located, Json.add_member] at applied
      exact (Option.some.inj applied).symm
    · rcases place with missing | null
      · rw [annotated] at missing
        cases missing
      · rw [annotated] at null
        cases null

theorem members_marked (members metadata : Members) (settled : (Json.object members).collapsed = .object members)
    (located : lastOf members "metadata" = some (.object metadata)) (bare : Annotated metadata []) :
    Marked members (markedMembers members metadata) := by
  obtain ⟨distinct, within⟩ := Json.collapsed_object members settled
  obtain ⟨inner, _⟩ := Json.collapsed_object metadata (within _ (last_of_member _ _ _ located))
  exact .set members metadata [] _ _ _ located bare rfl (put_sets_only [] safeToEvict (.string "true") List.nodup_nil)
    (put_sets_only metadata "annotations" _ inner) (put_sets_only members "metadata" _ distinct)

theorem marked_reads (members metadata : Members) (pod : Object PodSpec)
    (settled : (Json.object members).collapsed = .object members)
    (located : lastOf members "metadata" = some (.object metadata))
    (read : ResourceClass.pod.shape.read (.object members) = .ok pod)
    (inner : Metadata.shape.read (.object metadata) = .ok pod.metadata) :
    ResourceClass.pod.shape.read (.object (markedMembers members metadata)) =
      .ok { pod with metadata := { pod.metadata with annotations := some [(safeToEvict, "true")] } } := by
  obtain ⟨distinct, within⟩ := Json.collapsed_object members settled
  obtain ⟨once, _⟩ := Json.collapsed_object metadata (within _ (last_of_member _ _ _ located))
  exact object_read_with _ _ members pod _ _ distinct read (annotated_read metadata _ _ _ once inner rfl)

theorem marked_fits (members metadata : Members) (fits : (Json.object members).Fits nestingRoom)
    (located : lastOf members "metadata" = some (.object metadata)) :
    (Json.object (markedMembers members metadata)).Fits nestingRoom := by
  have outer := (Json.fits_object 199 members).mp fits
  have inner := (Json.fits_object 198 metadata).mp (outer _ (last_of_member _ _ _ located))
  have mark : (Json.object [(safeToEvict, .string "true")]).Fits 198 := by simp [Json.AllFit]
  exact (Json.fits_object 199 _).mpr (put_fits 199 members _ _ outer
    ((Json.fits_object 198 _).mpr (put_fits 198 metadata _ _ inner mark)))

theorem marked_filled (members metadata : Members) : markedMembers members metadata ≠ [] := by
  rw [markedMembers]
  cases members with
  | nil => simp [put]
  | cons entry rest =>
    rw [put]
    split <;> simp

/- The policy -/

theorem other_kind_unpatched (ignored : Namespaces) (request : Request) (other : request.kind.kind ≠ "Pod") :
    ∃ response, (addAutoscalerMark ignored request).outcome = .ok response ∧ response.allowed = true ∧
      response.patch = none := by
  have foreign : (request.kind.kind != "Pod") = true := by simpa using other
  simp only [addAutoscalerMark, foreign, if_true]
  exact ⟨_, rfl, rfl, rfl⟩

theorem marked_unpatched (ignored : Namespaces) (request : Request) (pod : Object PodSpec)
    (decoded : (Codec.decodeObjectAs .pod request).outcome = .ok pod)
    (marked : (lastOf pod.annotations safeToEvict).isSome = true) :
    ∃ response, (addAutoscalerMark ignored request).outcome = .ok response ∧ response.allowed = true ∧
      response.patch = none := by
  by_cases kind : request.kind.kind = "Pod"
  · simp only [addAutoscalerMark, kind, bne_self_eq_false, Bool.false_eq_true, if_false]
    rw [object_then .pod request pod _ decoded]
    cases listed : ignored.contains (effectiveNamespace request pod) with
    | true =>
      simp only [if_true]
      exact ⟨_, rfl, rfl, rfl⟩
    | false =>
      simp only [marked, Bool.false_eq_true, if_false, if_true]
      exact ⟨_, rfl, rfl, rfl⟩
  · exact other_kind_unpatched ignored request kind

theorem patched_iff (ignored : Namespaces) (request : Request) :
    (∃ response text, (addAutoscalerMark ignored request).outcome = .ok response ∧ response.patch = some text) ↔
      ∃ pod nameSpace, request.kind.kind = "Pod" ∧ (Codec.decodeObjectAs .pod request).outcome = .ok pod ∧
        InNamespace request pod.metadata nameSpace ∧ nameSpace ∉ ignored ∧
        lastOf pod.annotations safeToEvict = none := by
  constructor
  · rintro ⟨response, text, answered, patched⟩
    obtain ⟨pod, decoded, unmarked, _⟩ := marked_pod ignored request response text answered patched
    have placed := (in_namespace request pod _).mpr rfl
    have kind : request.kind.kind = "Pod" := by
      by_contra other
      obtain ⟨found, same, _, unpatched⟩ := other_kind_unpatched ignored request other
      cases answered.symm.trans same
      cases patched.symm.trans unpatched
    refine ⟨pod, _, kind, decoded, placed, fun listed => ?_, unmarked⟩
    have exempt := listed_outcome .standard (.autoscaler []) ignored request _ (.pod [] pod _ kind decoded placed) listed
    cases answered.symm.trans exempt
    cases patched
  · rintro ⟨pod, nameSpace, kind, decoded, placed, unlisted, unmarked⟩
    have here := (in_namespace request pod nameSpace).mp placed
    have checked : ignored.contains (effectiveNamespace request pod) = false := by
      rw [here]
      simpa using unlisted
    exact ⟨_, _, mark_outcome ignored request pod kind decoded checked unmarked, rfl⟩

-- Whoever asks about the marked object, and wherever it is, the policy lets it in as it is.
def LeftAlone (codec : Codec) (ignored : Namespaces) (members : Members) : Prop :=
  ∀ review request, review.request = some request → request.object = some members →
    ∃ response, (decide codec (.autoscaler ignored) (some review)).outcome = .ok response ∧
      response.allowed = true ∧ response.patch = none

theorem marked_left_alone (codec : Codec) (ignored : Namespaces) (members metadata : Members) (pod : Object PodSpec)
    (settled : (Json.object members).collapsed = .object members) (fits : (Json.object members).Fits nestingRoom)
    (located : lastOf members "metadata" = some (.object metadata))
    (read : ResourceClass.pod.shape.read (.object members) = .ok pod)
    (inner : Metadata.shape.read (.object metadata) = .ok pod.metadata) :
    LeftAlone codec ignored (markedMembers members metadata) := by
  intro review request asked submitted
  rw [decide_asked codec _ review request asked]
  have again := marked_reads members metadata pod settled located read inner
  have room : ∀ others, request.object = some others → (Json.object others).Fits nestingRoom := by
    intro others found
    cases submitted.symm.trans found
    exact marked_fits members metadata fits located
  have decoded := (decode_object_as_ok .pod request _ room).mpr
    ⟨_, submitted, marked_filled members metadata, again⟩
  exact marked_unpatched ignored request _ decoded (by simp [Object.annotations, lastOf])

/-- What the patch of a response does to the object of the request, where it can be applied. -/
def PatchMarks (codec : Codec) (ignored : Namespaces) (request : Request) (response : Response) : Prop :=
  ∃ members content document, request.object = some members ∧ response.patchDocument = some (.ok content) ∧
    parseDocument ⟨content.toArray⟩ = .ok document ∧
    ∀ result, Json.applyDocument document (.object members) = some result →
      ∃ others, result = .object others ∧ Marked members others ∧ LeftAlone codec ignored others

theorem patch_marks (codec : Codec) (ignored : Namespaces) (request : Request) (response : Response) (text : String)
    (single : ∀ members, request.object = some members → (Json.object members).collapsed = .object members)
    (answered : (addAutoscalerMark ignored request).outcome = .ok response) (patched : response.patch = some text) :
    PatchMarks codec ignored request response := by
  obtain ⟨pod, decoded, unmarked, rfl⟩ := marked_pod ignored request response text answered patched
  obtain ⟨members, submitted, _, read⟩ := decoded_as_submitted .pod request pod decoded
  have settled := single members submitted
  obtain ⟨content, carried, parsed⟩ := eviction_document pod.metadata.annotations
  refine ⟨members, content, _, submitted, ?_, parsed, fun result applied => ?_⟩
  · rw [Response.patchDocument, patched, Option.map_some, carried]
  · rw [Json.apply_single _ _ _ _ (eviction_edit pod.metadata.annotations)] at applied
    obtain ⟨metadata, located, bare, inner, rfl⟩ := edit_applied members pod result settled read unmarked applied
    have fits := decoded_as_fits .pod request pod members decoded submitted
    exact ⟨_, rfl, members_marked members metadata settled located bare,
      marked_left_alone codec ignored members metadata pod settled fits located read inner⟩

-- An object that was submitted has each key once, at every depth; whatever was read from a document does.
theorem pods_marked_once (codec : Codec) (ignored : Namespaces) (review : Option Review)
    (single : ∀ request members, review.bind Review.request = some request → request.object = some members →
      (Json.object members).collapsed = .object members) :
    ((∃ response text, (decide codec (.autoscaler ignored) review).outcome = .ok response ∧
        response.patch = some text) ↔
      ∃ request pod nameSpace, review.bind Review.request = some request ∧ request.kind.kind = "Pod" ∧
        (Codec.decodeObjectAs .pod request).outcome = .ok pod ∧ InNamespace request pod.metadata nameSpace ∧
        nameSpace ∉ ignored ∧ lastOf pod.annotations safeToEvict = none) ∧
    ∀ request response text, review.bind Review.request = some request →
      (decide codec (.autoscaler ignored) review).outcome = .ok response → response.patch = some text →
        PatchMarks codec ignored request response := by
  cases asked : review.bind Review.request with
  | none => simp [decide, reviewed, asked]
  | some request =>
    have decided : decide codec (.autoscaler ignored) review = addAutoscalerMark ignored request := by
      simp [decide, reviewed, asked, decision]
    rw [decided]
    refine ⟨?_, ?_⟩
    · rw [patched_iff]
      constructor
      · rintro ⟨pod, nameSpace, found⟩
        exact ⟨request, pod, nameSpace, rfl, found⟩
      · rintro ⟨other, pod, nameSpace, same, found⟩
        cases same
        exact ⟨pod, nameSpace, found⟩
    · intro other response text same answered patched
      cases same
      exact patch_marks codec ignored request response text (fun members => single request members asked) answered
        patched

/- A Pod with null for its annotations, and with members that the policy knows nothing of. -/

def runningPod : Members :=
  [("metadata", .object [("name", .string "web"), ("finalizers", .array [.string "keep"]), ("annotations", .null)]),
    ("status", .object [("phase", .string "Running")])]

theorem running_pod_settled : (Json.object runningPod).collapsed = .object runningPod := by
  simp [runningPod, Json.collapsed, Json.collapsedItems, Json.collapsedMembers, merged, put]

theorem running_pod_decodes : (Codec.decodeObjectAs .pod (requestFor "Pod" runningPod)).outcome =
    .ok ⟨none, none, ⟨some "web", none, none, none, none, none⟩, PodSpec.empty⟩ :=
  request_decodes "Pod" _ .pod _ (by simp [runningPod]) (by simp [runningPod, nestingRoom, Json.AllFit]) rfl

theorem running_pod_answered :
    (decide .standard (.autoscaler ["kube-system"]) (some (reviewFor "Pod" runningPod))).outcome =
      .ok (podResponse none) := by
  rw [decide_asked .standard (.autoscaler ["kube-system"]) _ (requestFor "Pod" runningPod) rfl]
  exact mark_outcome ["kube-system"] (requestFor "Pod" runningPod)
    ⟨none, none, ⟨some "web", none, none, none, none, none⟩, PodSpec.empty⟩ rfl running_pod_decodes
    (by simp [effectiveNamespace, Object.nameSpace, requestFor]) rfl

theorem running_pod_takes_patch (content : List UInt8) (document : Json)
    (carried : (podResponse none).patchDocument = some (.ok content))
    (parsed : parseDocument ⟨content.toArray⟩ = .ok document) :
    ∃ result, Json.applyDocument document (.object runningPod) = some result := by
  obtain ⟨written, encoded, reads⟩ := eviction_document none
  have same : some (.ok written) = (podResponse none).patchDocument := (congrArg some encoded).symm
  cases same.trans carried
  cases reads.symm.trans parsed
  rw [Json.apply_single _ _ _ _ (eviction_edit none)]
  exact ⟨_, rfl⟩

theorem running_pod_marked_once :
    (∀ request members, (some (reviewFor "Pod" runningPod)).bind Review.request = some request →
      request.object = some members → (Json.object members).collapsed = .object members) ∧
    (decide .standard (.autoscaler ["kube-system"]) (some (reviewFor "Pod" runningPod))).outcome =
      .ok (podResponse none) ∧
    ∃ content document others, (podResponse none).patchDocument = some (.ok content) ∧
      parseDocument ⟨content.toArray⟩ = .ok document ∧
      Json.applyDocument document (.object runningPod) = some (.object others) ∧ Marked runningPod others ∧
      LeftAlone .standard ["kube-system"] others := by
  have single : ∀ request members, (some (reviewFor "Pod" runningPod)).bind Review.request = some request →
      request.object = some members → (Json.object members).collapsed = .object members := by
    intro request members asked submitted
    obtain rfl : requestFor "Pod" runningPod = request := Option.some.inj asked
    obtain rfl : runningPod = members := Option.some.inj submitted
    exact running_pod_settled
  have patched : (podResponse none).patch = some (evictionPatch none).encode := rfl
  obtain ⟨members, content, document, submitted, carried, parsed, marks⟩ :=
    (pods_marked_once .standard ["kube-system"] (some (reviewFor "Pod" runningPod)) single).2
      (requestFor "Pod" runningPod) (podResponse none) _ rfl running_pod_answered patched
  obtain rfl : runningPod = members := Option.some.inj submitted
  obtain ⟨result, applied⟩ := running_pod_takes_patch content document carried parsed
  obtain ⟨others, rfl, marked, settled⟩ := marks result applied
  exact ⟨single, running_pod_answered, content, document, others, carried, parsed, applied, marked, settled⟩

end Policy
end Gatehouse
