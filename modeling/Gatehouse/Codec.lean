import Gatehouse.Journal
import Gatehouse.Refusal
import Gatehouse.Resource.Scheme
import Gatehouse.Target

/- Reading documents and the objects within requests. An empty document is always a failure, never a value of
   defaults. -/
namespace Gatehouse

structure Codec where
  scheme : Scheme

namespace Codec

def standard : Codec := ⟨.standard⟩

-- A document of some shape; a report is told before it fails.
def decodeShape {α : Type} (shape : Shape α) (title : String) (bytes : ByteArray) : Told DecodeFailure α :=
  if bytes.isEmpty then Told.fail (.empty title)
  else match shape.decode title bytes with
    | .ok value => pure value
    | .error report => do
      Told.tell .debug ("Failed to decode " ++ title ++ ": " ++ report.text)
      Told.fail (.invalid report)

def decode (target : Target) (bytes : ByteArray) : Told DecodeFailure target.Carrier :=
  decodeShape target.shape target.title bytes

def encode (target : Target) (value : target.Carrier) : String := target.shape.encode value

def decodeReview (bytes : ByteArray) : Told DecodeFailure Review := decode .review bytes

-- The object of a request as one of a given class.
def decodeObjectAs (type : ResourceClass) (request : Request) : Told DecodeFailure (Object type.Spec) :=
  decode (.resource type) (Utf8.encode request.rawObject)

/-- The object of a request, its class looked up by the kind of the request. -/
def decodeObject (codec : Codec) (request : Request) : Told Refusal Resource :=
  match codec.scheme.lookup request.kind.kind with
  | none => Told.fail (.violation (.unsupportedKind request.kind.kind))
  | some type => ((decodeObjectAs type request).mapError .undecodable).andThen fun object => pure ⟨type, object⟩

end Codec
end Gatehouse
