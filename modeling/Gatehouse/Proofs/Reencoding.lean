import Gatehouse.Proofs.Codec
import Gatehouse.Proofs.Schema.Restored

/- Documents of documents. What the codec decodes it encodes as a document that decodes again, and that is encoded as
   the same document, byte for byte, unless a field without a type holds a number that is not finite: such a field is
   null in the first document and missing in the second. The second document is final. -/
namespace Gatehouse

theorem text_finite : textShape.Finite := fun _ => rfl

theorem integer_finite : integerShape.Finite := fun _ => rfl

theorem boolean_finite : (Shape.leaf Format.boolean).Finite := fun _ => rfl

theorem named_finite {α : Type} (values : List α) (name : α → String) :
    (Shape.leaf (Format.named values name)).Finite := fun _ => rfl

theorem labels_finite : labelsShape.Finite := map_finite _ text_finite

theorem carried_finite (read : Json → Checked (Option String)) : (Shape.leaf (Patch.carried read)).Finite := by
  intro patch
  cases patch <;> rfl

/- Reviews -/

theorem group_kind_finite : GroupVersionKind.shape.Finite :=
  record_finite _ _ _ _ <| field_finite _ _ _ text_finite <| field_finite _ _ _ text_finite <|
    field_finite _ _ _ text_finite no_field_finite

theorem group_resource_finite : GroupVersionResource.shape.Finite :=
  record_finite _ _ _ _ <| field_finite _ _ _ text_finite <| field_finite _ _ _ text_finite <|
    field_finite _ _ _ text_finite no_field_finite

theorem user_finite : UserInfo.shape.Finite :=
  record_finite _ _ _ _ <| field_finite _ _ _ (optional_finite _ text_finite) <|
    field_finite _ _ _ (optional_finite _ text_finite) <|
    field_finite _ _ _ (optional_finite _ (list_finite _ text_finite)) <|
    field_finite _ _ _ (optional_finite _ (map_finite _ (list_finite _ text_finite))) no_field_finite

theorem status_finite : Status.shape.Finite :=
  record_finite _ _ _ _ <| field_finite _ _ _ text_finite <| field_finite _ _ _ (optional_finite _ text_finite) <|
    field_finite _ _ _ (optional_finite _ integer_finite) no_field_finite

theorem response_finite (read : Json → Checked (Option String)) : (Response.shapeWith read).Finite :=
  record_finite _ _ _ _ <| field_finite _ _ _ text_finite <| field_finite _ _ _ boolean_finite <|
    field_finite _ _ _ (optional_finite _ status_finite) <| field_finite _ _ _ (carried_finite read) <|
    field_finite _ _ _ (optional_finite _ (named_finite _ _)) <|
    field_finite _ _ _ (optional_finite _ (list_finite _ text_finite)) no_field_finite

theorem members_field_steady : (Shape.optional (.leaf Format.members)).Steady :=
  optional_steady _ (fun _ => rfl) members_steady

theorem expressions_steady : (Shape.optional (.list (.leaf Format.members))).Steady :=
  optional_steady _ (fun _ => rfl) (list_steady _ members_steady.1)

-- A field whose values never hold such a number.
theorem finite_field {α β : Type} (field : Field α) (shape : Shape α) (rest : Fields β) (others : β → Prop)
    (whole : shape.Finite) (later : rest.Restores others) :
    (Fields.cons field shape rest).Restores fun parts => others parts.2 :=
  steady_field field shape rest others (finite_steady shape whole) later

theorem request_steady : Request.shape.Steady :=
  record_steady _ _ _ request_lawful <| finite_field _ _ _ _ text_finite <| finite_field _ _ _ _ group_kind_finite <|
    finite_field _ _ _ _ (optional_finite _ group_resource_finite) <|
    finite_field _ _ _ _ (optional_finite _ text_finite) <|
    finite_field _ _ _ _ (optional_finite _ group_kind_finite) <|
    finite_field _ _ _ _ (optional_finite _ text_finite) <| finite_field _ _ _ _ (optional_finite _ text_finite) <|
    finite_field _ _ _ _ (optional_finite _ (named_finite _ _)) <|
    finite_field _ _ _ _ (optional_finite _ user_finite) <| steady_field _ _ _ _ members_field_steady <|
    steady_field _ _ _ _ members_field_steady <|
    finite_field _ _ _ _ (optional_finite _ boolean_finite) no_field_restores

theorem review_steady : Review.shape.Steady :=
  record_steady _ _ _ review_lawful <| finite_field _ _ _ _ (named_finite _ _) <| finite_field _ _ _ _ text_finite <|
    steady_field _ _ _ _ (optional_steady _ (record_solid _ _ _ _) request_steady) <|
    finite_field _ _ _ _ (optional_finite _ (response_finite _)) no_field_restores

/- Patches -/

def PatchOperation.Settled (operation : PatchOperation) : Prop := operation.value.isLost = false

def Patch.Settled (patch : Patch) : Prop := ∀ operation ∈ patch, operation.Settled

-- The one field of a record whose values are of any type.
theorem anything_field {β : Type} (field : Field Json) (rest : Fields β) (later : rest.Restores fun _ => True) :
    (Fields.cons field (.leaf Format.anything) rest).Restores fun parts => parts.1.isLost = false :=
  fields_restores_congr _ _ _ (only_field field _ rest _ (fun _ _ => trivial) anything_restores later) fun _ => by
    simp [Shape.write, Format.anything]

theorem operation_restores : Patch.operationShape.Restores PatchOperation.Settled :=
  record_restores _ _ _ _ Patch.operation_lawful <| finite_field _ _ _ _ (named_finite _ _) <|
    finite_field _ _ _ _ text_finite <| anything_field _ _ no_field_restores

theorem patch_restores : Patch.shape.Restores Patch.Settled := list_restores _ _ operation_restores

/- Objects -/

theorem metadata_finite : Metadata.shape.Finite :=
  record_finite _ _ _ _ <| field_finite _ _ _ (optional_finite _ text_finite) <|
    field_finite _ _ _ (optional_finite _ text_finite) <| field_finite _ _ _ (optional_finite _ text_finite) <|
    field_finite _ _ _ (optional_finite _ text_finite) <| field_finite _ _ _ (optional_finite _ labels_finite) <|
    field_finite _ _ _ (optional_finite _ labels_finite) no_field_finite

theorem container_finite : Container.shape.Finite :=
  record_finite _ _ _ _ <| field_finite _ _ _ text_finite <|
    field_finite _ _ _ (optional_finite _ text_finite) no_field_finite

theorem pod_finite : PodSpec.shape.Finite :=
  record_finite _ _ _ _ <| field_finite _ _ _ (list_finite _ container_finite) <|
    field_finite _ _ _ (optional_finite _ (list_finite _ container_finite)) <|
    field_finite _ _ _ (optional_finite _ text_finite) <|
    field_finite _ _ _ (optional_finite _ labels_finite) no_field_finite

theorem template_finite : PodTemplate.shape.Finite :=
  record_finite _ _ _ _ <| field_finite _ _ _ metadata_finite <| field_finite _ _ _ pod_finite no_field_finite

theorem selector_steady : LabelSelector.shape.Steady :=
  record_steady _ _ _ selector_lawful <| finite_field _ _ _ _ (optional_finite _ labels_finite) <|
    steady_field _ _ _ _ expressions_steady no_field_restores

theorem workload_fields_restore {β : Type} (rest : Fields β) (later : rest.Restores fun _ => True) :
    (WorkloadSpec.fields rest).Restores fun _ => True :=
  steady_field _ _ _ _ (optional_steady _ (record_solid _ _ _ _) selector_steady) <|
    finite_field _ _ _ _ template_finite later

theorem workload_steady : WorkloadSpec.shape.Steady :=
  record_steady _ _ _ workload_lawful <| workload_fields_restore _ no_field_restores

theorem job_steady : JobSpec.shape.Steady :=
  record_steady _ _ _ job_lawful <| workload_fields_restore _ <|
    finite_field _ _ _ _ (optional_finite _ integer_finite) <|
    finite_field _ _ _ _ (optional_finite _ integer_finite) <|
    finite_field _ _ _ _ (optional_finite _ integer_finite) no_field_restores

theorem ingress_steady : IngressSpec.shape.Steady :=
  record_steady _ _ _ ingress_lawful <| finite_field _ _ _ _ (optional_finite _ text_finite) <|
    steady_field _ _ _ _ expressions_steady <| steady_field _ _ _ _ expressions_steady no_field_restores

def ServicePort.Settled (port : ServicePort) : Prop := port.targetPort.isLost = false

def ServiceSpec.Settled (spec : ServiceSpec) : Prop := ∀ ports, spec.ports = some ports → ∀ port ∈ ports, port.Settled

theorem port_restores : ServicePort.shape.Restores ServicePort.Settled :=
  record_restores _ _ _ _ port_lawful <| finite_field _ _ _ _ (optional_finite _ text_finite) <|
    finite_field _ _ _ _ (optional_finite _ text_finite) <| finite_field _ _ _ _ integer_finite <|
    anything_field _ _ <| finite_field _ _ _ _ (optional_finite _ integer_finite) no_field_restores

-- A field whose content decides whether the record settles.
theorem content_field {α β : Type} (field : Field α) (shape : Shape α) (rest : Fields β) (settled : α → Prop)
    (bare : ∀ value, (shape.write value).isNull = true → settled value)
    (kept : ∀ value, (shape.write value).isLost = false) (restores : shape.Restores settled)
    (later : rest.Restores fun _ => True) :
    (Fields.cons field shape rest).Restores fun parts => settled parts.1 :=
  fields_restores_congr _ _ _ (only_field field shape rest settled bare restores later) fun parts => by
    simp [kept parts.1]

theorem service_restores : ServiceSpec.shape.Restores ServiceSpec.Settled := by
  have ports := optional_restores _ _ (fun _ => rfl) (fun _ => rfl) (list_restores _ _ port_restores)
  refine record_restores _ _ _ _ service_lawful <| finite_field _ _ _ _ (optional_finite _ text_finite) <|
    content_field _ _ _ _ ?_ ?_ ports <| finite_field _ _ _ _ (optional_finite _ labels_finite) <|
    finite_field _ _ _ _ (optional_finite _ text_finite) <|
    finite_field _ _ _ _ (optional_finite _ text_finite) no_field_restores
  · intro value null
    cases value with
    | none => simp
    | some ports => cases null
  · intro value
    cases value <;> rfl

namespace Object

theorem fields_restore {β : Type} (rest : Fields β) (settled : β → Prop) (later : rest.Restores settled) :
    (fields rest).Restores fun parts => settled parts.2.2.2 :=
  finite_field _ _ _ _ (optional_finite _ text_finite) <| finite_field _ _ _ _ (optional_finite _ text_finite) <|
    finite_field _ _ _ _ metadata_finite later

theorem bare_steady : bareShape.Steady := record_steady _ _ _ bare_lawful <| fields_restore _ _ no_field_restores

theorem shape_restores {σ : Type} (spec : Shape σ) (absent : σ) (settled : σ → Prop)
    (lawful : (shape spec absent).Lawful) (solid : spec.Solid) (kept : ∀ value, (spec.write value).isLost = false)
    (restores : spec.Restores settled) :
    (shape spec absent).Restores fun object => settled object.spec :=
  record_restores _ _ _ _ lawful <| fields_restore _ _ <|
    content_field _ _ _ _ (fun value null => by simp [solid value] at null) kept restores no_field_restores

end Object

namespace Target

-- Nothing that a field of any type holds is a number that is not finite.
def Settled : (target : Target) → target.Carrier → Prop
  | .patchOperation, operation => PatchOperation.Settled operation
  | .patch, operations => Patch.Settled operations
  | .servicePort, port => ServicePort.Settled port
  | .serviceSpec, spec => ServiceSpec.Settled spec
  | .resource .service, object => ServiceSpec.Settled object.spec
  | _, _ => True

theorem shape_restores (target : Target) : target.shape.Restores target.Settled := by
  cases target with
  | groupVersionKind => exact finite_restores _ group_kind_finite
  | groupVersionResource => exact finite_restores _ group_resource_finite
  | userInfo => exact finite_restores _ user_finite
  | status => exact finite_restores _ status_finite
  | patchOperation => exact operation_restores
  | patch => exact patch_restores
  | request => exact request_steady.1
  | response => exact finite_restores _ (response_finite _)
  | review => exact review_steady.1
  | metadata => exact finite_restores _ metadata_finite
  | container => exact finite_restores _ container_finite
  | podSpec => exact finite_restores _ pod_finite
  | podTemplate => exact finite_restores _ template_finite
  | labelSelector => exact selector_steady.1
  | workloadSpec => exact workload_steady.1
  | jobSpec => exact job_steady.1
  | servicePort => exact port_restores
  | serviceSpec => exact service_restores
  | ingressSpec => exact ingress_steady.1
  | resource type =>
    have lawful := type.shape_lawful
    cases type with
    | bare => exact Object.bare_steady.1
    | pod =>
      exact Object.shape_restores _ _ _ lawful (record_solid _ _ _ _) (fun _ => rfl) (finite_restores _ pod_finite)
    | deployment => exact Object.shape_restores _ _ _ lawful (record_solid _ _ _ _) (fun _ => rfl) workload_steady.1
    | statefulSet => exact Object.shape_restores _ _ _ lawful (record_solid _ _ _ _) (fun _ => rfl) workload_steady.1
    | daemonSet => exact Object.shape_restores _ _ _ lawful (record_solid _ _ _ _) (fun _ => rfl) workload_steady.1
    | job => exact Object.shape_restores _ _ _ lawful (record_solid _ _ _ _) (fun _ => rfl) job_steady.1
    | service => exact Object.shape_restores _ _ _ lawful (record_solid _ _ _ _) (fun _ => rfl) service_restores
    | ingress => exact Object.shape_restores _ _ _ lawful (record_solid _ _ _ _) (fun _ => rfl) ingress_steady.1

end Target

namespace Codec

theorem second_document (target : Target) (bytes : ByteArray) (value : target.Carrier)
    (decoded : (decode target bytes).outcome = .ok value) : ∃ again,
      decode target (Utf8.encode (encode target value)) = pure again ∧
        (encode target again = encode target value ↔ target.Settled value) ∧
        decode target (Utf8.encode (encode target again)) = pure again := by
  obtain ⟨_, read⟩ := (decode_shape_ok _ _ _ _).mp decoded
  obtain ⟨fits, kept⟩ := target.shape.decoded_keeps target.shape_lawful target.shape_shallow _ bytes value read
  obtain ⟨again, found, whole, _, exact⟩ := target.shape_restores value kept
  have restoredFits := Json.restored_fits nestingRoom _ fits
  have keeps := shape_keeps target.shape target.shape_lawful nestingRoom _ again (Nat.le_refl _) target.shape_shallow
    restoredFits found
  refine ⟨again, ?_, ?_, ?_⟩
  · have decoded := (Shape.decode_ok _ target.title _ _).mpr ⟨_, parse_written _ fits, found⟩
    exact decode_shape_quiet _ _ _ again (json_text_filled _ _ Json.compact_loses _) decoded
  · rw [← exact]
    exact Json.text_determines nestingRoom _ _ keeps.1 fits whole
  · have decoded := target.shape.decode_written target.title again keeps whole
    exact decode_shape_quiet _ _ _ again (json_text_filled _ _ Json.compact_loses _) decoded

/- An operation of a patch whose value is not a number, within a list and by itself. -/

def notNumber : Json := .float .nan

def operationText (value : String) : String := "\x7b\"op\":\"add\",\"path\":\"/a\",\"value\":" ++ value ++ "\x7d"

def operationSource (value : Json) : Json := .object [("op", .string "add"), ("path", .string "/a"), ("value", value)]

theorem listed_number_decodes : (decode .patchOperation (Utf8.encode (operationText "[NaN]"))).outcome =
    .ok ⟨.add, "/a", .array [notNumber]⟩ := by
  have fits : (operationSource (.array [notNumber])).Fits nestingRoom := by
    simp [operationSource, notNumber, nestingRoom, Json.AllFit]
  have parsed := parsed_of_written (operationText "[NaN]") _ fits (by decide +kernel)
  exact parsed_decodes _ _ _ _ _ parsed (Patch.operation_reads _ .add "/a" (.array [notNumber]) rfl rfl (.inr rfl))

theorem listed_number_settles : (decode .patchOperation (Utf8.encode (operationText "[NaN]"))).outcome =
      .ok ⟨.add, "/a", .array [notNumber]⟩ ∧ PatchOperation.Settled ⟨.add, "/a", .array [notNumber]⟩ ∧
    ∃ again, decode .patchOperation (Utf8.encode (operationText "[null]")) = pure again ∧
      encode .patchOperation again = operationText "[null]" := by
  have written : encode .patchOperation ⟨.add, "/a", .array [notNumber]⟩ = operationText "[null]" := by decide +kernel
  obtain ⟨again, decoded, settles, _⟩ :=
    second_document .patchOperation _ ⟨.add, "/a", .array [notNumber]⟩ listed_number_decodes
  rw [written] at decoded settles
  exact ⟨listed_number_decodes, rfl, again, decoded, settles.mpr rfl⟩

theorem bare_number_left_out : ∃ value again,
    (decode .patchOperation (Utf8.encode (operationText "NaN"))).outcome = .ok value ∧
      decode .patchOperation (Utf8.encode (encode .patchOperation value)) = pure again ∧
      encode .patchOperation value = operationText "null" ∧
      encode .patchOperation again = "\x7b\"op\":\"add\",\"path\":\"/a\"\x7d" ∧
      encode .patchOperation again ≠ encode .patchOperation value := by
  have fits (value : Json) (room : value.Fits 199) : (operationSource value).Fits nestingRoom := by
    simpa [operationSource, nestingRoom, Json.AllFit] using room
  have parsed := parsed_of_written (operationText "NaN") _ (fits notNumber (.float _ _)) (by decide +kernel)
  have parsedAgain := parsed_of_written (operationText "null") _ (fits .null (.null _)) (by decide +kernel)
  have read (value : Json) := Patch.operation_reads
    [("op", .string "add"), ("path", .string "/a"), ("value", value)] .add "/a" value rfl rfl (.inr rfl)
  have written : encode .patchOperation ⟨.add, "/a", notNumber⟩ = operationText "null" := by decide +kernel
  have shown : encode .patchOperation ⟨.add, "/a", .null⟩ = "\x7b\"op\":\"add\",\"path\":\"/a\"\x7d" := by
    decide +kernel
  refine ⟨⟨.add, "/a", notNumber⟩, ⟨.add, "/a", .null⟩, parsed_decodes _ _ _ _ _ parsed (read notNumber), ?_, written,
    shown, by rw [shown, written]; decide +kernel⟩
  rw [written]
  exact decode_shape_quiet _ _ _ _ (parsed_filled _ _ parsedAgain)
    ((Shape.decode_ok _ _ _ _).mpr ⟨_, parsedAgain, read .null⟩)

end Codec
end Gatehouse
