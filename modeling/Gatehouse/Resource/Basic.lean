import Gatehouse.Review

/- Objects of a cluster. Those that run Pods have Pod metadata: a Pod its own, a controller that of its
   template. -/
namespace Gatehouse

abbrev Labels := List (String × String)

structure Metadata where
  name : Option String
  generateName : Option String
  nameSpace : Option String
  uid : Option String
  labels : Option Labels
  -- No map and an empty map are different places to add to.
  annotations : Option Labels
deriving DecidableEq

def Metadata.empty : Metadata := ⟨none, none, none, none, none, none⟩

structure Container where
  name : String
  image : Option String
deriving DecidableEq

structure PodSpec where
  containers : List Container
  initContainers : Option (List Container)
  serviceAccountName : Option String
  nodeSelector : Option Labels
deriving DecidableEq

def PodSpec.empty : PodSpec := ⟨[], none, none, none⟩

structure PodTemplate where
  metadata : Metadata
  spec : PodSpec
deriving DecidableEq

def PodTemplate.empty : PodTemplate := ⟨.empty, .empty⟩

structure LabelSelector where
  matchLabels : Option Labels
  matchExpressions : Option (List Members)

structure WorkloadSpec where
  selector : Option LabelSelector
  template : PodTemplate

structure JobSpec extends WorkloadSpec where
  parallelism : Option Int
  completions : Option Int
  backoffLimit : Option Int

structure ServicePort where
  name : Option String
  protocol : Option String
  port : Int
  targetPort : Json
  nodePort : Option Int

structure ServiceSpec where
  type : Option String
  ports : Option (List ServicePort)
  selector : Option Labels
  externalTrafficPolicy : Option String
  loadBalancerIp : Option String

structure IngressSpec where
  ingressClassName : Option String
  rules : Option (List Members)
  tls : Option (List Members)

/-- An object whose kind has specifications of type `σ`. -/
structure Object (σ : Type) where
  apiVersion : Option String
  kind : Option String
  metadata : Metadata
  spec : σ

/- Shapes -/

def labelsShape : Shape Labels := .map textShape

def integerShape : Shape Int := .leaf Format.integer

def Metadata.shape : Shape Metadata :=
  .plain (.optional "name" textShape <| .optional "generateName" textShape <| .optional "namespace" textShape <|
      .optional "uid" textShape <| .optional "labels" labelsShape <| .optional "annotations" labelsShape .nil)
    (fun (name, generateName, nameSpace, uid, labels, annotations, ()) =>
      ⟨name, generateName, nameSpace, uid, labels, annotations⟩)
    (fun it => (it.name, it.generateName, it.nameSpace, it.uid, it.labels, it.annotations, ()))

def Container.shape : Shape Container :=
  .plain (.cons (.default "name" "") textShape <| .optional "image" textShape .nil)
    (fun (name, image, ()) => ⟨name, image⟩) (fun it => (it.name, it.image, ()))

def PodSpec.shape : Shape PodSpec :=
  .plain (.cons (.default "containers" []) (.list Container.shape) <|
      .optional "initContainers" (.list Container.shape) <| .optional "serviceAccountName" textShape <|
      .optional "nodeSelector" labelsShape .nil)
    (fun (containers, initContainers, serviceAccountName, nodeSelector, ()) =>
      ⟨containers, initContainers, serviceAccountName, nodeSelector⟩)
    (fun it => (it.containers, it.initContainers, it.serviceAccountName, it.nodeSelector, ()))

def PodTemplate.shape : Shape PodTemplate :=
  .plain (.cons (.default "metadata" .empty) Metadata.shape <| .cons (.default "spec" .empty) PodSpec.shape .nil)
    (fun (metadata, spec, ()) => ⟨metadata, spec⟩) (fun it => (it.metadata, it.spec, ()))

def LabelSelector.shape : Shape LabelSelector :=
  .plain (.optional "matchLabels" labelsShape <|
      .optional "matchExpressions" (.list (.leaf Format.members)) .nil)
    (fun (matchLabels, matchExpressions, ()) => ⟨matchLabels, matchExpressions⟩)
    (fun it => (it.matchLabels, it.matchExpressions, ()))

def WorkloadSpec.fields {β : Type} (rest : Fields β) : Fields (Option LabelSelector × PodTemplate × β) :=
  .optional "selector" LabelSelector.shape <| .cons (.default "template" .empty) PodTemplate.shape rest

def WorkloadSpec.shape : Shape WorkloadSpec :=
  .plain (WorkloadSpec.fields .nil) (fun (selector, template, ()) => ⟨selector, template⟩)
    (fun it => (it.selector, it.template, ()))

def JobSpec.shape : Shape JobSpec :=
  .plain (WorkloadSpec.fields <| .optional "parallelism" integerShape <| .optional "completions" integerShape <|
      .optional "backoffLimit" integerShape .nil)
    (fun (selector, template, parallelism, completions, backoffLimit, ()) =>
      ⟨⟨selector, template⟩, parallelism, completions, backoffLimit⟩)
    (fun it => (it.selector, it.template, it.parallelism, it.completions, it.backoffLimit, ()))

def ServicePort.shape : Shape ServicePort :=
  .plain (.optional "name" textShape <| .optional "protocol" textShape <|
      .cons (.required "port") integerShape <| .cons (.default "targetPort" .null) (.leaf Format.anything) <|
      .optional "nodePort" integerShape .nil)
    (fun (name, protocol, port, targetPort, nodePort, ()) => ⟨name, protocol, port, targetPort, nodePort⟩)
    (fun it => (it.name, it.protocol, it.port, it.targetPort, it.nodePort, ()))

def ServiceSpec.shape : Shape ServiceSpec :=
  .plain (.optional "type" textShape <| .optional "ports" (.list ServicePort.shape) <|
      .optional "selector" labelsShape <| .optional "externalTrafficPolicy" textShape <|
      .optional "loadBalancerIp" textShape .nil)
    (fun (type, ports, selector, externalTrafficPolicy, loadBalancerIp, ()) =>
      ⟨type, ports, selector, externalTrafficPolicy, loadBalancerIp⟩)
    (fun it => (it.type, it.ports, it.selector, it.externalTrafficPolicy, it.loadBalancerIp, ()))

def IngressSpec.shape : Shape IngressSpec :=
  .plain (.optional "ingressClassName" textShape <| .optional "rules" (.list (.leaf Format.members)) <|
      .optional "tls" (.list (.leaf Format.members)) .nil)
    (fun (ingressClassName, rules, tls, ()) => ⟨ingressClassName, rules, tls⟩)
    (fun it => (it.ingressClassName, it.rules, it.tls, ()))

namespace Object

def fields {β : Type} (rest : Fields β) : Fields (Option String × Option String × Metadata × β) :=
  .optional "apiVersion" textShape <| .optional "kind" textShape <|
    .cons (.default "metadata" .empty) Metadata.shape rest

def bareShape : Shape (Object Unit) :=
  .plain (fields .nil) (fun (apiVersion, kind, metadata, ()) => ⟨apiVersion, kind, metadata, ()⟩)
    (fun it => (it.apiVersion, it.kind, it.metadata, ()))

def shape {σ : Type} (spec : Shape σ) (absent : σ) : Shape (Object σ) :=
  .plain (fields <| .cons (.default "spec" absent) spec .nil)
    (fun (apiVersion, kind, metadata, spec, ()) => ⟨apiVersion, kind, metadata, spec⟩)
    (fun it => (it.apiVersion, it.kind, it.metadata, it.spec, ()))

def nameSpace {σ : Type} (object : Object σ) : String := object.metadata.nameSpace.getD ""

-- An object without a name of its own is told by the stem of the name it will be given.
def name {σ : Type} (object : Object σ) : String :=
  match object.metadata.name.getD "" with
  | "" => object.metadata.generateName.getD ""
  | name => name

def annotations {σ : Type} (object : Object σ) : Labels := object.metadata.annotations.getD []

end Object

-- Classes of objects that differ in their specifications.
inductive ResourceClass where
  | bare
  | pod
  | deployment
  | statefulSet
  | daemonSet
  | job
  | service
  | ingress
deriving DecidableEq

namespace ResourceClass

def name : ResourceClass → String
  | .bare => "KubeObject"
  | .pod => "Pod"
  | .deployment => "Deployment"
  | .statefulSet => "StatefulSet"
  | .daemonSet => "DaemonSet"
  | .job => "Job"
  | .service => "Service"
  | .ingress => "Ingress"

abbrev Spec : ResourceClass → Type
  | .bare => Unit
  | .pod => PodSpec
  | .deployment | .statefulSet | .daemonSet => WorkloadSpec
  | .job => JobSpec
  | .service => ServiceSpec
  | .ingress => IngressSpec

def workloadShape : Shape (Object WorkloadSpec) := Object.shape WorkloadSpec.shape ⟨none, .empty⟩

def shape : (type : ResourceClass) → Shape (Object type.Spec)
  | .bare => Object.bareShape
  | .pod => Object.shape PodSpec.shape .empty
  | .deployment => workloadShape
  | .statefulSet => workloadShape
  | .daemonSet => workloadShape
  | .job => Object.shape JobSpec.shape ⟨⟨none, .empty⟩, none, none, none⟩
  | .service => Object.shape ServiceSpec.shape ⟨none, none, none, none, none⟩
  | .ingress => Object.shape IngressSpec.shape ⟨none, none, none⟩

-- Annotations on a controller itself never reach its Pods.
def podMetadata? : (type : ResourceClass) → Object type.Spec → Option Metadata
  | .pod, object => some object.metadata
  | .deployment, object => some object.spec.template.metadata
  | .statefulSet, object => some object.spec.template.metadata
  | .daemonSet, object => some object.spec.template.metadata
  | .job, object => some object.spec.template.metadata
  | .bare, _ => none
  | .service, _ => none
  | .ingress, _ => none

end ResourceClass

structure Resource where
  type : ResourceClass
  object : Object type.Spec

def Resource.podAnnotations? (resource : Resource) : Option Labels :=
  (resource.type.podMetadata? resource.object).map fun metadata => metadata.annotations.getD []

end Gatehouse
