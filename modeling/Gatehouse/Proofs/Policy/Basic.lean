import Gatehouse.Policy.Catalogue
import Gatehouse.Proofs.Journal
import Gatehouse.Proofs.Review

/- What every policy does with a review that asks: it decides on the request, and goes on with the object of the
   request once that is read. -/
namespace Gatehouse.Policy

-- The response to a request that is allowed with nothing more to say.
def admitted : Response := ⟨"", true, none, none, none, none⟩

theorem decide_asked (codec : Codec) (policy : Policy) (review : Review) (request : Request)
    (asked : review.request = some request) : policy.decide codec (some review) = policy.decision codec request := by
  simp [decide, reviewed, asked]

theorem object_then {α : Type} (type : ResourceClass) (request : Request) (object : Object type.Spec)
    (next : Object type.Spec → Told Refusal α)
    (decoded : (Codec.decodeObjectAs type request).outcome = .ok object) :
    (objectAs type request >>= next).outcome = (next object).outcome := by
  apply Told.bind_found
  exact (Told.map_error_ok _ _ _).mpr decoded

-- What is made of an object matters only where there is one.
theorem object_congr {α : Type} (type : ResourceClass) (request : Request) (next other : Object type.Spec → Told Refusal α)
    (same : ∀ object, (Codec.decodeObjectAs type request).outcome = .ok object → next object = other object) :
    (objectAs type request >>= next) = (objectAs type request >>= other) := by
  apply Told.bind_congr
  intro object found
  exact same object ((Told.map_error_ok _ _ _).mp found)

theorem decode_object_found (codec : Codec) (request : Request) (type : ResourceClass) (object : Object type.Spec)
    (registered : codec.scheme.lookup request.kind.kind = some type)
    (decoded : (Codec.decodeObjectAs type request).outcome = .ok object) :
    (codec.decodeObject request).outcome = .ok ⟨type, object⟩ := by
  rw [Codec.decodeObject, registered]
  exact (Told.bind_ok _ _ _).mpr ⟨object, (Told.map_error_ok _ _ _).mpr decoded, rfl⟩

theorem decode_object_class (codec : Codec) (request : Request) (resource : Resource)
    (decoded : (codec.decodeObject request).outcome = .ok resource) :
    codec.scheme.lookup request.kind.kind = some resource.type := by
  rw [Codec.decodeObject] at decoded
  split at decoded
  · cases decoded
  · rename_i type registered
    obtain ⟨object, _, same⟩ := (Told.bind_ok _ _ _).mp decoded
    cases same
    exact registered

-- A request about an object of some kind that says nothing more.
def requestFor (kind : String) (object : Members) : Request :=
  ⟨"", ⟨"", "", kind⟩, none, none, none, none, none, none, none, some object, none, none⟩

def reviewFor (kind : String) (object : Members) : Review := ⟨.v1, "AdmissionReview", some (requestFor kind object), none⟩

theorem request_decodes (kind : String) (members : Members) (type : ResourceClass) (object : Object type.Spec)
    (nonempty : members ≠ []) (fits : (Json.object members).Fits nestingRoom)
    (read : type.shape.read (.object members) = .ok object) :
    (Codec.decodeObjectAs type (requestFor kind members)).outcome = .ok object := by
  refine (decode_object_as_ok type _ object ?_).mpr ⟨members, rfl, nonempty, read⟩
  intro other submitted
  cases submitted
  exact fits

end Gatehouse.Policy
