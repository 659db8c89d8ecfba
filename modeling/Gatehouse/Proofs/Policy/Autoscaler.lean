import Gatehouse.Policy.Catalogue
import Gatehouse.Proofs.Journal
import Gatehouse.Proofs.Patch.Application
import Gatehouse.Proofs.Review

/- Whether the patch that marks a Pod can be applied to the Pod. The whole map is added when the Pod has no
   annotations, which takes metadata to add it to; otherwise one key of the map is replaced, which is never there. So
   the patch applies exactly to a Pod that has metadata and no annotations, or null for them. -/
namespace Gatehouse.Policy

-- The edit that marks a Pod with these annotations, and the path of it.
def evictionEdit (annotations : Option Labels) : Json.Edit × List String :=
  match annotations with
  | none => (.add (.object [(safeToEvict, .string "true")]), ["metadata", "annotations"])
  | some _ => (.replace (.string "true"), ["metadata", "annotations", safeToEvict])

-- The operation as its document shows it.
def evictionOperation (annotations : Option Labels) : Json :=
  match annotations with
  | none => .object [("op", .string "add"), ("path", .string "/metadata/annotations"),
    ("value", .object [(safeToEvict, .string "true")])]
  | some _ => .object [("op", .string "replace"),
    ("path", .string ("/metadata/annotations/" ++ Pointer.escape safeToEvict)), ("value", .string "true")]

theorem eviction_written (annotations : Option Labels) :
    Patch.shape.write (evictionPatch annotations) = .array [evictionOperation annotations] := by
  cases annotations <;> rfl

theorem eviction_document (annotations : Option Labels) : ∃ bytes,
    Base64.decodeLenient (evictionPatch annotations).encode = .ok bytes ∧
      parseDocument ⟨bytes.toArray⟩ = .ok (.array [evictionOperation annotations]) := by
  have fits : (Patch.shape.write (evictionPatch annotations)).Fits nestingRoom := by
    rw [eviction_written]
    cases annotations <;> simp [evictionOperation, nestingRoom, Json.AllFit]
  obtain ⟨bytes, decoded, parsed⟩ := Patch.encoded_document _ fits
  refine ⟨bytes, decoded, ?_⟩
  rw [parsed, eviction_written]
  cases annotations <;> rfl

theorem eviction_edit (annotations : Option Labels) :
    Json.edit? (evictionOperation annotations) = some (evictionEdit annotations) := by
  have whole : Pointer.parse "/metadata/annotations" = some ["metadata", "annotations"] :=
    Pointer.parse_write ["metadata", "annotations"]
  have single : Pointer.parse ("/metadata/annotations/" ++ Pointer.escape safeToEvict) =
      some ["metadata", "annotations", safeToEvict] := Pointer.parse_write ["metadata", "annotations", safeToEvict]
  cases annotations with
  | none => simp [Json.edit?, evictionOperation, Json.get?, lastOf, whole, evictionEdit]
  | some labels => simp [Json.edit?, evictionOperation, Json.get?, lastOf, single, evictionEdit]

/- What the submitted object has where the annotations of a Pod are read. -/

theorem object_metadata {σ : Type} (spec : Shape σ) (absent : σ) (members : Members) (object : Object σ)
    (read : (Object.shape spec absent).read (.object members) = .ok object) :
    (lastOf members "metadata" = none ∧ .empty = object.metadata) ∨
      ∃ json, lastOf members "metadata" = some json ∧ Metadata.shape.read json = .ok object.metadata := by
  obtain ⟨⟨apiVersion, kind, metadata, rest⟩, found, accepted⟩ := (record_read _ _ _ _ _ _).mp read
  obtain ⟨rfl, _⟩ := (ruled_ok _ _ _).mp accepted
  obtain ⟨_, later⟩ := (fields_read_cons _ _ _ _ _ _).mp found
  obtain ⟨_, later⟩ := (fields_read_cons _ _ _ _ _ _).mp later
  obtain ⟨given | ⟨missing, same⟩, _⟩ := (fields_read_single _ _ _ _ _ _ (by decide)).mp later
  · exact .inr given
  · exact .inl ⟨missing, Option.some.inj same⟩

-- The annotations of metadata, with the members that they were read from.
theorem metadata_annotations (members : Members) (metadata : Metadata)
    (read : Metadata.shape.read (.object members) = .ok metadata) :
    (metadata.annotations = none ∧ (lastOf members "annotations" = none ∨ lastOf members "annotations" = some .null)) ∨
      ∃ labels entries, metadata.annotations = some labels ∧ lastOf members "annotations" = some (.object entries) ∧
        labelsShape.read (.object entries) = .ok labels := by
  obtain ⟨⟨name, generateName, nameSpace, uid, labels, annotations, rest⟩, found, accepted⟩ :=
    (record_read _ _ _ _ _ _).mp read
  obtain ⟨rfl, _⟩ := (ruled_ok _ _ _).mp accepted
  obtain ⟨_, later⟩ := (fields_read_cons _ _ _ _ _ _).mp found
  obtain ⟨_, later⟩ := (fields_read_cons _ _ _ _ _ _).mp later
  obtain ⟨_, later⟩ := (fields_read_cons _ _ _ _ _ _).mp later
  obtain ⟨_, later⟩ := (fields_read_cons _ _ _ _ _ _).mp later
  obtain ⟨_, later⟩ := (fields_read_cons _ _ _ _ _ _).mp later
  obtain ⟨⟨json, present, read⟩ | ⟨missing, same⟩, _⟩ := (fields_read_single _ _ _ _ _ _ (by decide)).mp later
  · rcases (optional_read _ _ _).mp read with ⟨null, same⟩ | ⟨_, labels, read, same⟩
    · cases json with
      | null => exact .inl ⟨same.symm, .inr present⟩
      | _ => cases null
    · cases json with
      | object entries => exact .inr ⟨labels, entries, same.symm, present, read⟩
      | _ => cases read
  · exact .inl ⟨(Option.some.inj same).symm, .inl missing⟩

-- A place for annotations: metadata without them, or with null for them.
def Annotatable (members : Members) : Prop :=
  ∃ metadata, lastOf members "metadata" = some (.object metadata) ∧
    (lastOf metadata "annotations" = none ∨ lastOf metadata "annotations" = some .null)

-- The value of the annotation that marks a Pod.
def evictionMark (pod : Json) : Option Json :=
  ((pod.get? "metadata").bind (·.get? "annotations")).bind (·.get? safeToEvict)

theorem added_mark (members metadata : Members) (value : Json)
    (settled : (Json.object members).collapsed = .object members)
    (present : lastOf members "metadata" = some (.object metadata)) :
    ∃ result, (Json.Edit.add (.object [(safeToEvict, value)])).along ["metadata", "annotations"] (.object members) =
      some result ∧ evictionMark result = some value := by
  obtain ⟨distinct, within⟩ := Json.collapsed_object members settled
  obtain ⟨inner, _⟩ := Json.collapsed_object metadata (within _ (last_of_member _ _ _ present))
  refine ⟨_, by rw [Json.along_member _ _ _ _ _ _ present, Json.add_member]; rfl, ?_⟩
  simp [evictionMark, Json.get?, last_of_put _ _ _ _ distinct, last_of_put _ _ _ _ inner, lastOf]

-- What a Pod that is answered with a patch was read with.
theorem marked_pod (ignored : Namespaces) (request : Request) (response : Response) (text : String)
    (answered : (addAutoscalerMark ignored request).outcome = .ok response) (patched : response.patch = some text) :
    ∃ pod : Object PodSpec, (Codec.decodeObjectAs .pod request).outcome = .ok pod ∧
      lastOf pod.annotations safeToEvict = none ∧ text = (evictionPatch pod.metadata.annotations).encode := by
  unfold addAutoscalerMark at answered
  dsimp only at answered
  split at answered
  · cases answered
    cases patched
  · obtain ⟨pod, decoded, answered⟩ := (Told.bind_ok _ _ _).mp answered
    have read := (Told.map_error_ok _ _ _).mp decoded
    split at answered
    · cases answered
      cases patched
    · split at answered
      · cases answered
        cases patched
      · rename_i unmarked
        cases answered
        cases patched
        exact ⟨pod, read, by simpa using unmarked, rfl⟩

theorem mark_outcome (ignored : Namespaces) (request : Request) (pod : Object PodSpec)
    (kind : request.kind.kind = "Pod") (found : (Codec.decodeObjectAs .pod request).outcome = .ok pod)
    (checked : ignored.contains (effectiveNamespace request pod) = false)
    (unmarked : lastOf pod.annotations safeToEvict = none) : (addAutoscalerMark ignored request).outcome =
      .ok ⟨"", true, none, some (evictionPatch pod.metadata.annotations).encode, some .jsonPatch, none⟩ := by
  unfold addAutoscalerMark
  simp only [kind, bne_self_eq_false, Bool.false_eq_true, if_false]
  refine (Told.bind_ok _ _ _).mpr ⟨pod, (Told.map_error_ok _ _ _).mpr found, ?_⟩
  simp only [checked, unmarked, Option.isSome_none, Bool.false_eq_true, if_false]
  rfl

theorem not_annotatable (members metadata : Members) (found : Json) (present : lastOf members "metadata" =
    some (.object metadata)) (annotated : lastOf metadata "annotations" = some found) (content : found ≠ .null) :
    ¬ Annotatable members := by
  rintro ⟨other, located, missing | null⟩
  all_goals
    rw [present] at located
    cases located
  · rw [annotated] at missing
    cases missing
  · rw [annotated] at null
    exact content (Option.some.inj null)

theorem eviction_edit_applies (members : Members) (pod : Object PodSpec)
    (settled : (Json.object members).collapsed = .object members)
    (read : ResourceClass.pod.shape.read (.object members) = .ok pod)
    (unmarked : lastOf pod.annotations safeToEvict = none) :
    (Annotatable members → ∃ result, (evictionEdit pod.metadata.annotations).1.along
      (evictionEdit pod.metadata.annotations).2 (.object members) = some result ∧
        evictionMark result = some (.string "true")) ∧
    (¬ Annotatable members → (evictionEdit pod.metadata.annotations).1.along
      (evictionEdit pod.metadata.annotations).2 (.object members) = none) := by
  rcases object_metadata _ _ members pod read with ⟨absent, filled⟩ | ⟨json, present, metadataRead⟩
  · -- Without metadata there is nothing to add the map to.
    rw [← filled]
    refine ⟨?_, fun _ => Json.along_absent _ _ _ _ _ absent⟩
    rintro ⟨metadata, located, _⟩
    rw [absent] at located
    cases located
  · cases json with
    | object metadata =>
      rcases metadata_annotations metadata _ metadataRead with
        ⟨bare, place⟩ | ⟨labels, entries, given, annotated, mapped⟩
      · rw [bare]
        refine ⟨fun _ => added_mark members metadata _ settled present, fun refused => ?_⟩
        exact absurd ⟨metadata, present, place⟩ refused
      · -- The map is there and lacks the key, so there is nothing to replace.
        have refused := not_annotatable members metadata _ present annotated (by simp)
        have missing : lastOf entries safeToEvict = none := by
          rw [Object.annotations, given] at unmarked
          exact (map_source_keys textShape entries labels mapped safeToEvict).mp unmarked
        rw [given]
        refine ⟨fun annotatable => absurd annotatable refused, fun _ => ?_⟩
        dsimp only [evictionEdit]
        rw [Json.along_member _ _ _ _ _ _ present, Json.along_member _ _ _ _ _ _ annotated,
          Json.replace_absent _ _ _ missing]
        rfl
    | _ => cases metadataRead

theorem eviction_patch_applies (codec : Codec) (ignored : Namespaces) (bytes : ByteArray) (review : Review)
    (response : Response) (text : String) (decoded : (Codec.decodeReview bytes).outcome = .ok review)
    (answered : (decide codec (.autoscaler ignored) (some review)).outcome = .ok response)
    (patched : response.patch = some text) :
    ∃ request members content document, review.request = some request ∧ request.object = some members ∧
      response.patchDocument = some (.ok content) ∧ parseDocument ⟨content.toArray⟩ = .ok document ∧
      (Annotatable members → ∃ result, Json.applyDocument document (.object members) = some result ∧
        evictionMark result = some (.string "true")) ∧
      (¬ Annotatable members → Json.applyDocument document (.object members) = none) := by
  cases asked : review.request with
  | none => simp [decide, reviewed, asked] at answered
  | some request =>
    have marked : (addAutoscalerMark ignored request).outcome = .ok response := by
      simpa [decide, reviewed, asked, decision] using answered
    obtain ⟨pod, found, unmarked, rfl⟩ := marked_pod ignored request response text marked patched
    have fits := decoded_object_fits bytes review request decoded asked
    obtain ⟨members, submitted, _, read⟩ := (decode_object_as_ok .pod request pod fits).mp found
    have settled := decoded_object_settled bytes review request members decoded asked submitted
    obtain ⟨content, decodedText, parsed⟩ := eviction_document pod.metadata.annotations
    have carried : response.patchDocument = some (.ok content) := by
      rw [Response.patchDocument, patched, Option.map_some, decodedText]
    refine ⟨request, members, content, _, rfl, submitted, carried, parsed, ?_⟩
    rw [Json.apply_single _ _ _ _ (eviction_edit pod.metadata.annotations)]
    exact eviction_edit_applies members pod settled read unmarked

/- Two Pods without the mark: one without annotations, and one with an empty map of them. -/

def podSource (metadata : Members) : Json :=
  .object [("request", .object [("kind", .object [("kind", .string "Pod")]),
    ("object", .object [("metadata", .object metadata)])])]

def podRequest (metadata : Members) : Request :=
  ⟨"", ⟨"", "", "Pod"⟩, none, none, none, none, none, none, none, some [("metadata", .object metadata)], none, none⟩

def podReview (metadata : Members) : Review := ⟨.v1, "AdmissionReview", some (podRequest metadata), none⟩

def namedPod : Members := [("name", .string "web")]

def emptyMapPod : Members := [("annotations", .object [])]

def podResponse (annotations : Option Labels) : Response :=
  ⟨"", true, none, some (evictionPatch annotations).encode, some .jsonPatch, none⟩

theorem pod_answered (metadata : Members) (read : Metadata)
    (fits : (Json.object [("metadata", .object metadata)]).Fits nestingRoom)
    (unmarked : lastOf (read.annotations.getD []) safeToEvict = none)
    (found : ResourceClass.pod.shape.read (.object [("metadata", .object metadata)]) =
      .ok ⟨none, none, read, PodSpec.empty⟩) :
    (decide .standard (.autoscaler []) (some (podReview metadata))).outcome = .ok (podResponse read.annotations) := by
  have decoded : (Codec.decodeObjectAs .pod (podRequest metadata)).outcome = .ok ⟨none, none, read, PodSpec.empty⟩ := by
    refine (decode_object_as_ok _ _ _ ?_).mpr ⟨_, rfl, by simp, found⟩
    rintro members ⟨⟩
    exact fits
  have asked : (podReview metadata).request = some (podRequest metadata) := rfl
  simp only [decide, reviewed, Option.bind_some, asked, decision]
  exact mark_outcome [] (podRequest metadata) ⟨none, none, read, PodSpec.empty⟩ rfl decoded rfl unmarked

theorem named_pod_decodes :
    (Codec.decodeReview (Utf8.encode ((podSource namedPod).text Json.compact))).outcome = .ok (podReview namedPod) :=
  Codec.written_review_decodes _ _ (by simp [podSource, namedPod, nestingRoom, Json.AllFit]) rfl rfl

theorem named_pod_answered :
    (decide .standard (.autoscaler []) (some (podReview namedPod))).outcome = .ok (podResponse none) :=
  pod_answered namedPod ⟨some "web", none, none, none, none, none⟩ (by simp [namedPod, nestingRoom, Json.AllFit]) rfl
    rfl

theorem named_pod_patched :
    (Codec.decodeReview (Utf8.encode ((podSource namedPod).text Json.compact))).outcome = .ok (podReview namedPod) ∧
      (decide .standard (.autoscaler []) (some (podReview namedPod))).outcome = .ok (podResponse none) ∧
      ∃ content document result, (podResponse none).patchDocument = some (.ok content) ∧
        parseDocument ⟨content.toArray⟩ = .ok document ∧
        Json.applyDocument document (.object [("metadata", .object namedPod)]) = some result ∧
        evictionMark result = some (.string "true") := by
  refine ⟨named_pod_decodes, named_pod_answered, ?_⟩
  obtain ⟨request, members, content, document, asked, submitted, carried, parsed, applies, _⟩ :=
    eviction_patch_applies .standard [] _ _ _ _ named_pod_decodes named_pod_answered rfl
  cases asked
  cases submitted
  obtain ⟨result, applied, marked⟩ := applies ⟨namedPod, rfl, .inl rfl⟩
  exact ⟨content, document, result, carried, parsed, applied, marked⟩

theorem empty_map_decodes :
    (Codec.decodeReview (Utf8.encode ((podSource emptyMapPod).text Json.compact))).outcome =
      .ok (podReview emptyMapPod) :=
  Codec.written_review_decodes _ _ (by simp [podSource, emptyMapPod, nestingRoom, Json.AllFit]) rfl rfl

theorem empty_map_answered :
    (decide .standard (.autoscaler []) (some (podReview emptyMapPod))).outcome = .ok (podResponse (some [])) :=
  pod_answered emptyMapPod ⟨none, none, none, none, none, some []⟩ (by simp [emptyMapPod, nestingRoom, Json.AllFit]) rfl
    rfl

theorem empty_map_refuses_patch :
    (Codec.decodeReview (Utf8.encode ((podSource emptyMapPod).text Json.compact))).outcome =
      .ok (podReview emptyMapPod) ∧
      (decide .standard (.autoscaler []) (some (podReview emptyMapPod))).outcome = .ok (podResponse (some [])) ∧
      ∃ content document, (podResponse (some [])).patchDocument = some (.ok content) ∧
        parseDocument ⟨content.toArray⟩ = .ok document ∧
        Json.applyDocument document (.object [("metadata", .object emptyMapPod)]) = none := by
  obtain ⟨content, decoded, parsed⟩ := eviction_document (some [])
  refine ⟨empty_map_decodes, empty_map_answered, content, _, congrArg some decoded, parsed, ?_⟩
  rw [Json.apply_single _ _ _ _ (eviction_edit (some []))]
  rfl

end Gatehouse.Policy
