import Gatehouse.Codec
import Gatehouse.Proofs.Patch.Carried
import Gatehouse.Proofs.Schema.Lawful

/- The shape of every target is lawful, so every document that decodes is encoded as one that decodes to the same
   value. -/
namespace Gatehouse

theorem text_solid : textShape.Solid := fun _ => rfl

theorem text_lawful : textShape.Lawful := Format.text_faithful

theorem text_source (text : String) : ∃ json, (∀ room, json.Fits room) ∧ textShape.read json = .ok text :=
  ⟨.string text, fun room => .string room text, rfl⟩

theorem integer_solid : integerShape.Solid := fun _ => rfl

theorem integer_lawful : integerShape.Lawful := Format.integer_faithful

theorem labels_solid : labelsShape.Solid := fun _ => rfl

theorem labels_lawful : labelsShape.Lawful := text_lawful

theorem members_lawful : (Shape.list (.leaf Format.members)).Lawful := Format.members_faithful

/- Reviews -/

theorem group_kind_lawful : GroupVersionKind.shape.Lawful := by
  refine ⟨?_, by decide, fun _ => rfl⟩
  exact default_lawful _ _ _ _ text_lawful text_solid (text_source _) <|
    default_lawful _ _ _ _ text_lawful text_solid (text_source _) <|
    default_lawful _ _ _ _ text_lawful text_solid (text_source _) trivial

theorem group_resource_lawful : GroupVersionResource.shape.Lawful := by
  refine ⟨?_, by decide, fun _ => rfl⟩
  exact default_lawful _ _ _ _ text_lawful text_solid (text_source _) <|
    default_lawful _ _ _ _ text_lawful text_solid (text_source _) <|
    default_lawful _ _ _ _ text_lawful text_solid (text_source _) trivial

theorem user_lawful : UserInfo.shape.Lawful := by
  refine ⟨?_, by decide, fun _ => rfl⟩
  exact optional_lawful _ _ _ rfl text_lawful text_solid <| optional_lawful _ _ _ rfl text_lawful text_solid <|
    optional_lawful _ _ _ rfl text_lawful (fun _ => rfl) <| optional_lawful _ _ _ rfl text_lawful (fun _ => rfl) trivial

theorem status_lawful : Status.shape.Lawful := by
  refine ⟨?_, by decide, fun _ => rfl⟩
  exact default_lawful _ _ _ _ text_lawful text_solid (text_source _) <|
    optional_lawful _ _ _ rfl text_lawful text_solid <|
    optional_lawful _ _ _ rfl integer_lawful integer_solid trivial

theorem request_lawful : Request.shape.Lawful := by
  refine ⟨?_, by decide, fun _ => rfl⟩
  exact default_lawful _ _ _ _ text_lawful text_solid (text_source _) <|
    default_lawful _ _ _ _ group_kind_lawful (record_solid _ _ _ _) (empty_object_source _ _ rfl) <|
    optional_lawful _ _ _ rfl group_resource_lawful (record_solid _ _ _ _) <|
    optional_lawful _ _ _ rfl text_lawful text_solid <|
    optional_lawful _ _ _ rfl group_kind_lawful (record_solid _ _ _ _) <|
    optional_lawful _ _ _ rfl text_lawful text_solid <| optional_lawful _ _ _ rfl text_lawful text_solid <|
    optional_lawful _ _ _ rfl (Format.named_faithful _ _) (fun _ => rfl) <|
    optional_lawful _ _ _ rfl user_lawful (record_solid _ _ _ _) <|
    optional_lawful _ _ _ rfl Format.members_faithful (fun _ => rfl) <|
    optional_lawful _ _ _ rfl Format.members_faithful (fun _ => rfl) <|
    optional_lawful _ _ _ rfl Format.boolean_faithful (fun _ => rfl) trivial

theorem patch_field_lawful {β : Type} (rest : Fields β) (later : rest.Lawful) :
    (Fields.cons (.default "patch" none) (.leaf (Patch.carried Patch.readCarried)) rest).Lawful := by
  refine ⟨Patch.carried_faithful, later, ?_, ?_⟩
  · rintro value ⟨⟩
    exact ⟨.null, .null, rfl⟩
  · intro value null
    cases value with
    | none => rfl
    | some text => cases null

theorem response_lawful : Response.shape.Lawful := by
  refine ⟨?_, by decide, fun _ => rfl⟩
  exact default_lawful _ _ _ _ text_lawful text_solid (text_source _) <|
    default_lawful _ _ _ _ Format.boolean_faithful (fun _ => rfl) ⟨.bool false, fun room => .bool room false, rfl⟩ <|
    optional_lawful _ _ _ rfl status_lawful (record_solid _ _ _ _) <| patch_field_lawful _ <|
    optional_lawful _ _ _ rfl (Format.named_faithful _ _) (fun _ => rfl) <|
    optional_lawful _ _ _ rfl text_lawful (fun _ => rfl) trivial

theorem review_lawful : Review.shape.Lawful := by
  refine ⟨?_, by decide, fun _ => rfl⟩
  exact default_lawful _ _ _ _ (Format.named_faithful _ _) (fun _ => rfl)
      ⟨.string ApiVersion.v1.name, fun room => .string room _, rfl⟩ <|
    default_lawful _ _ _ _ text_lawful text_solid (text_source _) <|
    optional_lawful _ _ _ rfl request_lawful (record_solid _ _ _ _) <|
    optional_lawful _ _ _ rfl response_lawful (record_solid _ _ _ _) trivial

/- Objects -/

theorem metadata_lawful : Metadata.shape.Lawful := by
  refine ⟨?_, by decide, fun _ => rfl⟩
  exact optional_lawful _ _ _ rfl text_lawful text_solid <| optional_lawful _ _ _ rfl text_lawful text_solid <|
    optional_lawful _ _ _ rfl text_lawful text_solid <| optional_lawful _ _ _ rfl text_lawful text_solid <|
    optional_lawful _ _ _ rfl labels_lawful labels_solid <|
    optional_lawful _ _ _ rfl labels_lawful labels_solid trivial

theorem container_lawful : Container.shape.Lawful := by
  refine ⟨?_, by decide, fun _ => rfl⟩
  exact default_lawful _ _ _ _ text_lawful text_solid (text_source _) <|
    optional_lawful _ _ _ rfl text_lawful text_solid trivial

theorem pod_lawful : PodSpec.shape.Lawful := by
  refine ⟨?_, by decide, fun _ => rfl⟩
  exact default_lawful _ _ _ _ container_lawful (fun _ => rfl) ⟨.array [], .noItems, rfl⟩ <|
    optional_lawful _ _ _ rfl container_lawful (fun _ => rfl) <|
    optional_lawful _ _ _ rfl text_lawful text_solid <|
    optional_lawful _ _ _ rfl labels_lawful labels_solid trivial

theorem template_lawful : PodTemplate.shape.Lawful := by
  refine ⟨?_, by decide, fun _ => rfl⟩
  exact default_lawful _ _ _ _ metadata_lawful (record_solid _ _ _ _) (empty_object_source _ _ rfl) <|
    default_lawful _ _ _ _ pod_lawful (record_solid _ _ _ _) (empty_object_source _ _ rfl) trivial

theorem selector_lawful : LabelSelector.shape.Lawful := by
  refine ⟨?_, by decide, fun _ => rfl⟩
  exact optional_lawful _ _ _ rfl labels_lawful labels_solid <|
    optional_lawful _ _ _ rfl members_lawful (fun _ => rfl) trivial

theorem workload_fields_lawful {β : Type} (rest : Fields β) (later : rest.Lawful) :
    (WorkloadSpec.fields rest).Lawful :=
  optional_lawful _ _ _ rfl selector_lawful (record_solid _ _ _ _) <|
    default_lawful _ _ _ _ template_lawful (record_solid _ _ _ _) (empty_object_source _ _ rfl) later

theorem workload_lawful : WorkloadSpec.shape.Lawful :=
  ⟨workload_fields_lawful _ trivial, by decide, fun _ => rfl⟩

theorem job_lawful : JobSpec.shape.Lawful := by
  refine ⟨workload_fields_lawful _ ?_, by decide, fun _ => rfl⟩
  exact optional_lawful _ _ _ rfl integer_lawful integer_solid <|
    optional_lawful _ _ _ rfl integer_lawful integer_solid <|
    optional_lawful _ _ _ rfl integer_lawful integer_solid trivial

theorem port_lawful : ServicePort.shape.Lawful := by
  refine ⟨?_, by decide, fun _ => rfl⟩
  exact optional_lawful _ _ _ rfl text_lawful text_solid <| optional_lawful _ _ _ rfl text_lawful text_solid <|
    required_lawful _ _ _ integer_lawful integer_solid <| anything_lawful _ _ <|
    optional_lawful _ _ _ rfl integer_lawful integer_solid trivial

theorem service_lawful : ServiceSpec.shape.Lawful := by
  refine ⟨?_, by decide, fun _ => rfl⟩
  exact optional_lawful _ _ _ rfl text_lawful text_solid <|
    optional_lawful _ _ _ rfl port_lawful (fun _ => rfl) <|
    optional_lawful _ _ _ rfl labels_lawful labels_solid <| optional_lawful _ _ _ rfl text_lawful text_solid <|
    optional_lawful _ _ _ rfl text_lawful text_solid trivial

theorem ingress_lawful : IngressSpec.shape.Lawful := by
  refine ⟨?_, by decide, fun _ => rfl⟩
  exact optional_lawful _ _ _ rfl text_lawful text_solid <|
    optional_lawful _ _ _ rfl members_lawful (fun _ => rfl) <|
    optional_lawful _ _ _ rfl members_lawful (fun _ => rfl) trivial

namespace Object

theorem fields_lawful {β : Type} (rest : Fields β) (later : rest.Lawful) : (fields rest).Lawful :=
  optional_lawful _ _ _ rfl text_lawful text_solid <| optional_lawful _ _ _ rfl text_lawful text_solid <|
    default_lawful _ _ _ _ metadata_lawful (record_solid _ _ _ _) (empty_object_source _ _ rfl) later

theorem bare_lawful : bareShape.Lawful := ⟨fields_lawful _ trivial, by decide, fun _ => rfl⟩

theorem shape_lawful {σ : Type} (spec : Shape σ) (absent : σ) (lawful : spec.Lawful) (solid : spec.Solid)
    (source : spec.read (.object []) = .ok absent) : (shape spec absent).Lawful := by
  refine ⟨fields_lawful _ ?_, ?_, fun _ => rfl⟩
  · exact default_lawful _ _ _ _ lawful solid (empty_object_source _ _ source) trivial
  · have listed : ["apiVersion", snake "apiVersion", "kind", "metadata", "spec"].Nodup := by decide
    exact listed

end Object

theorem ResourceClass.shape_lawful (type : ResourceClass) : type.shape.Lawful := by
  cases type with
  | bare => exact Object.bare_lawful
  | pod => exact Object.shape_lawful _ _ pod_lawful (record_solid _ _ _ _) rfl
  | deployment => exact Object.shape_lawful _ _ workload_lawful (record_solid _ _ _ _) rfl
  | statefulSet => exact Object.shape_lawful _ _ workload_lawful (record_solid _ _ _ _) rfl
  | daemonSet => exact Object.shape_lawful _ _ workload_lawful (record_solid _ _ _ _) rfl
  | job => exact Object.shape_lawful _ _ job_lawful (record_solid _ _ _ _) rfl
  | service => exact Object.shape_lawful _ _ service_lawful (record_solid _ _ _ _) rfl
  | ingress => exact Object.shape_lawful _ _ ingress_lawful (record_solid _ _ _ _) rfl

namespace Target

theorem shape_lawful (target : Target) : target.shape.Lawful := by
  cases target with
  | groupVersionKind => exact group_kind_lawful
  | groupVersionResource => exact group_resource_lawful
  | userInfo => exact user_lawful
  | status => exact status_lawful
  | patchOperation => exact Patch.operation_lawful
  | patch => exact Patch.shape_lawful
  | request => exact request_lawful
  | response => exact response_lawful
  | review => exact review_lawful
  | metadata => exact metadata_lawful
  | container => exact container_lawful
  | podSpec => exact pod_lawful
  | podTemplate => exact template_lawful
  | labelSelector => exact selector_lawful
  | workloadSpec => exact workload_lawful
  | jobSpec => exact job_lawful
  | servicePort => exact port_lawful
  | serviceSpec => exact service_lawful
  | ingressSpec => exact ingress_lawful
  | resource type => exact type.shape_lawful

theorem shape_shallow (target : Target) : target.shape.height ≤ nestingRoom := by
  cases target with
  | resource type => cases type <;> decide
  | _ => decide

end Target
end Gatehouse
