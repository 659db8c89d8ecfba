import Gatehouse.Patch.Basic

/- Admission reviews: the envelope in which a cluster asks whether an object may be admitted, and in which it is
   answered. -/
namespace Gatehouse

inductive ApiVersion where
  | v1
  | v1beta1
deriving DecidableEq

def ApiVersion.name : ApiVersion → String
  | .v1 => "admission.k8s.io/v1"
  | .v1beta1 => "admission.k8s.io/v1beta1"

inductive Operation where
  | create
  | update
  | delete
  | connect
deriving DecidableEq

def Operation.name : Operation → String
  | .create => "CREATE"
  | .update => "UPDATE"
  | .delete => "DELETE"
  | .connect => "CONNECT"

inductive PatchType where
  | jsonPatch
deriving DecidableEq

def PatchType.name : PatchType → String
  | .jsonPatch => "JSONPatch"

structure GroupVersionKind where
  group : String
  version : String
  kind : String
deriving DecidableEq

structure GroupVersionResource where
  group : String
  version : String
  resource : String
deriving DecidableEq

structure UserInfo where
  username : Option String
  uid : Option String
  groups : Option (List String)
  extra : Option (List (String × List String))
deriving DecidableEq

structure Status where
  message : String
  reason : Option String
  code : Option Int
deriving DecidableEq

structure Request where
  uid : String
  kind : GroupVersionKind
  resource : Option GroupVersionResource
  subResource : Option String
  requestKind : Option GroupVersionKind
  name : Option String
  nameSpace : Option String
  operation : Option Operation
  userInfo : Option UserInfo
  object : Option Members
  oldObject : Option Members
  dryRun : Option Bool

structure Response where
  uid : String
  allowed : Bool
  result : Option Status
  patch : Option String
  patchType : Option PatchType
  warnings : Option (List String)
deriving DecidableEq

structure Review where
  apiVersion : ApiVersion
  kind : String
  request : Option Request
  response : Option Response

/- Shapes -/

def textShape : Shape String := .leaf Format.text

def GroupVersionKind.shape : Shape GroupVersionKind :=
  .plain (.cons (.default "group" "") textShape <| .cons (.default "version" "") textShape <|
      .cons (.default "kind" "") textShape .nil)
    (fun (group, version, kind, ()) => ⟨group, version, kind⟩)
    (fun it => (it.group, it.version, it.kind, ()))

def GroupVersionResource.shape : Shape GroupVersionResource :=
  .plain (.cons (.default "group" "") textShape <| .cons (.default "version" "") textShape <|
      .cons (.default "resource" "") textShape .nil)
    (fun (group, version, resource, ()) => ⟨group, version, resource⟩)
    (fun it => (it.group, it.version, it.resource, ()))

def UserInfo.shape : Shape UserInfo :=
  .plain (.optional "username" textShape <| .optional "uid" textShape <|
      .optional "groups" (.list textShape) <| .optional "extra" (.map (.list textShape)) .nil)
    (fun (username, uid, groups, extra, ()) => ⟨username, uid, groups, extra⟩)
    (fun it => (it.username, it.uid, it.groups, it.extra, ()))

def Status.shape : Shape Status :=
  .plain (.cons (.default "message" "") textShape <| .optional "reason" textShape <|
      .optional "code" (.leaf Format.integer) .nil)
    (fun (message, reason, code, ()) => ⟨message, reason, code⟩)
    (fun it => (it.message, it.reason, it.code, ()))

def Request.shape : Shape Request :=
  .plain (.cons (.default "uid" "") textShape <|
      .cons (.default "kind" ⟨"", "", ""⟩) GroupVersionKind.shape <|
      .optional "resource" GroupVersionResource.shape <| .optional "subResource" textShape <|
      .optional "requestKind" GroupVersionKind.shape <| .optional "name" textShape <|
      .optional "namespace" textShape <|
      .optional "operation" (.leaf (Format.named [.create, .update, .delete, .connect] Operation.name)) <|
      .optional "userInfo" UserInfo.shape <| .optional "object" (.leaf Format.members) <|
      .optional "oldObject" (.leaf Format.members) <| .optional "dryRun" (.leaf Format.boolean) .nil)
    (fun (uid, kind, resource, subResource, requestKind, name, nameSpace, operation, userInfo, object, oldObject,
        dryRun, ()) =>
      ⟨uid, kind, resource, subResource, requestKind, name, nameSpace, operation, userInfo, object, oldObject,
        dryRun⟩)
    (fun it => (it.uid, it.kind, it.resource, it.subResource, it.requestKind, it.name, it.nameSpace, it.operation,
      it.userInfo, it.object, it.oldObject, it.dryRun, ()))

/-- A patch comes with its type, and a type with a patch. -/
def Response.patchRule (response : Response) : Option Fault :=
  match response.patchType with
  | none => if response.patch.getD "" == "" then none else some (.rejected "missing patchType field")
  | some type =>
    if response.patch.getD "" == "" then
      some (.rejected ("patchType is " ++ type.name ++ " but there is no patch"))
    else none

def Response.shapeWith (readPatch : Json → Checked (Option String)) : Shape Response :=
  .record (.cons (.default "uid" "") textShape <| .cons (.default "allowed" false) (.leaf Format.boolean) <|
      .cons ⟨"status", ["result"], some none⟩ (.optional Status.shape) <|
      .cons (.default "patch" none) (.leaf (Patch.carried readPatch)) <|
      .optional "patchType" (.leaf (Format.named [.jsonPatch] PatchType.name)) <|
      .optional "warnings" (.list textShape) .nil)
    (fun (uid, allowed, result, patch, patchType, warnings, ()) =>
      ⟨uid, allowed, result, patch, patchType, warnings⟩)
    (fun it => (it.uid, it.allowed, it.result, it.patch, it.patchType, it.warnings, ()))
    Response.patchRule

def Response.shape : Shape Response := Response.shapeWith Patch.readCarried

def Review.shape : Shape Review :=
  .plain (.cons (.default "apiVersion" .v1) (.leaf (Format.named [.v1, .v1beta1] ApiVersion.name)) <|
      .cons (.default "kind" "AdmissionReview") textShape <| .optional "request" Request.shape <|
      .optional "response" Response.shape .nil)
    (fun (apiVersion, kind, request, response, ()) => ⟨apiVersion, kind, request, response⟩)
    (fun it => (it.apiVersion, it.kind, it.request, it.response, ()))

/- Questions to them -/

-- The submitted object as text again; empty when there is none.
def Request.rawObject (request : Request) : String :=
  match request.object with
  | none | some [] => ""
  | some members => (Json.object members).text Json.ascii

def Response.message (response : Response) : String := (response.result.map Status.message).getD ""

def Response.patchDocument (response : Response) : Option (Except Base64.Failure Base64.Bytes) :=
  response.patch.map Base64.decodeLenient

-- A value whose patch is given as bytes.
def Response.readWithPatch (bytes : ByteArray) (value : Json) : Checked Response :=
  match value with
  | .object members => (Response.shapeWith fun _ => Patch.checkBytes bytes).read (.object (put members "patch" .null))
  | other => Response.shape.read other

def Response.title : String := "AdmissionResponse"

def Review.title : String := "AdmissionReview"

end Gatehouse
