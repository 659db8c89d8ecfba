import Gatehouse.Codec

/- Decision functions. A decision starts from a response that does not allow and turns it into one that does only
   on a stated condition; it denies by failing. Namespaces on a policy's list are exempt from it, and are matched
   exactly. -/
namespace Gatehouse

abbrev Decision := Request → Told Refusal Response

abbrev Namespaces := List String

namespace Policy

def denied : Response := ⟨"", false, none, none, none, none⟩

def allowed (response : Response) : Response := { response with allowed := true }

def allowedSaying (response : Response) (message : String) : Response :=
  { response with allowed := true, result := some ⟨message, none, none⟩ }

def allowedWhitelisted (nameSpace : String) : Response :=
  allowedSaying denied (Message.withValue .namespaceWhitelisted nameSpace)

-- The namespace of the object, else that of the request, else the empty one.
def effectiveNamespace {σ : Type} (request : Request) (object : Object σ) : String :=
  match object.nameSpace with
  | "" => request.nameSpace.getD ""
  | nameSpace => nameSpace

def objectAs (type : ResourceClass) (request : Request) : Told Refusal (Object type.Spec) :=
  (Codec.decodeObjectAs type request).mapError .undecodable

-- A review without a request is never decided.
def reviewed (decide : Decision) (review : Option Review) : Told Refusal Response :=
  match review.bind Review.request with
  | none => Told.fail (.violation .noRequest)
  | some request => decide request

/- Texts in the order of their code points. -/

def sortedNames (names : List String) : List String := names.mergeSort fun a b => decide (a ≤ b)

def distinctNames (names : List String) : List String := sortedNames names.eraseDups

def shownIgnored (ignored : Namespaces) : String :=
  "ignored_namespaces=" ++ Text.quotedItems (distinctNames ignored)

end Policy
end Gatehouse
