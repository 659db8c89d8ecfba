import Gatehouse.Resource.Basic

/- Everything that can be read from a document of its own, with its type and its shape. -/
namespace Gatehouse

inductive Target where
  | groupVersionKind
  | groupVersionResource
  | userInfo
  | status
  | patchOperation
  | patch
  | request
  | response
  | review
  | metadata
  | container
  | podSpec
  | podTemplate
  | labelSelector
  | workloadSpec
  | jobSpec
  | servicePort
  | serviceSpec
  | ingressSpec
  | resource (type : ResourceClass)
deriving DecidableEq

namespace Target

abbrev Carrier : Target → Type
  | .groupVersionKind => GroupVersionKind
  | .groupVersionResource => GroupVersionResource
  | .userInfo => UserInfo
  | .status => Status
  | .patchOperation => PatchOperation
  | .patch => Patch
  | .request => Request
  | .response => Response
  | .review => Review
  | .metadata => Metadata
  | .container => Container
  | .podSpec => PodSpec
  | .podTemplate => PodTemplate
  | .labelSelector => LabelSelector
  | .workloadSpec => WorkloadSpec
  | .jobSpec => JobSpec
  | .servicePort => ServicePort
  | .serviceSpec => ServiceSpec
  | .ingressSpec => IngressSpec
  | .resource type => Object type.Spec

def shape : (target : Target) → Shape target.Carrier
  | .groupVersionKind => GroupVersionKind.shape
  | .groupVersionResource => GroupVersionResource.shape
  | .userInfo => UserInfo.shape
  | .status => Status.shape
  | .patchOperation => Patch.operationShape
  | .patch => Patch.shape
  | .request => Request.shape
  | .response => Response.shape
  | .review => Review.shape
  | .metadata => Metadata.shape
  | .container => Container.shape
  | .podSpec => PodSpec.shape
  | .podTemplate => PodTemplate.shape
  | .labelSelector => LabelSelector.shape
  | .workloadSpec => WorkloadSpec.shape
  | .jobSpec => JobSpec.shape
  | .servicePort => ServicePort.shape
  | .serviceSpec => ServiceSpec.shape
  | .ingressSpec => IngressSpec.shape
  | .resource type => type.shape

-- The name by which reports call it.
def title : Target → String
  | .groupVersionKind => "GroupVersionKind"
  | .groupVersionResource => "GroupVersionResource"
  | .userInfo => "UserInfo"
  | .status => "Status"
  | .patchOperation => "PatchOperation"
  | .patch => Patch.title
  | .request => "AdmissionRequest"
  | .response => Response.title
  | .review => Review.title
  | .metadata => "ObjectMeta"
  | .container => "Container"
  | .podSpec => "PodSpec"
  | .podTemplate => "PodTemplateSpec"
  | .labelSelector => "LabelSelector"
  | .workloadSpec => "WorkloadSpec"
  | .jobSpec => "JobSpec"
  | .servicePort => "ServicePort"
  | .serviceSpec => "ServiceSpec"
  | .ingressSpec => "IngressSpec"
  | .resource type => type.name

def resourceClasses : List ResourceClass :=
  [.bare, .pod, .deployment, .statefulSet, .daemonSet, .job, .service, .ingress]

def all : List Target :=
  [.groupVersionKind, .groupVersionResource, .userInfo, .status, .patchOperation, .patch, .request, .response,
    .review, .metadata, .container, .podSpec, .podTemplate, .labelSelector, .workloadSpec, .jobSpec, .servicePort,
    .serviceSpec, .ingressSpec] ++ resourceClasses.map .resource

def named? (title : String) : Option Target := all.find? fun target => target.title == title

end Target
end Gatehouse
