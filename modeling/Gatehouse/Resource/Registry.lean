import Gatehouse.Codec

/- Registries of classes. A scheme knows the classes that come with the library; a registry is open to others, whose
   objects are of any type. Registries stand side by side. A codec is made over one of them, or over the first when none
   is given, and looks classes up in it as it is at the time. -/
namespace Gatehouse

/-- A class of objects: what it is called, and how a document is read as one of its objects. -/
structure ObjectClass (τ : Type) where
  name : String
  validate : ByteArray → Except Report τ

namespace ObjectClass

variable {τ : Type}

def decode (type : ObjectClass τ) (bytes : ByteArray) : Told DecodeFailure τ :=
  if bytes.isEmpty then Told.fail (.empty type.name)
  else match type.validate bytes with
    | .ok value => pure value
    | .error report => do
      Told.tell .debug ("Failed to decode " ++ type.name ++ ": " ++ report.text)
      Told.fail (.invalid report)

-- The object of a request as one of this class.
def read (type : ObjectClass τ) (request : Request) : Told Refusal τ :=
  (type.decode (Utf8.encode request.rawObject)).mapError .undecodable

end ObjectClass

structure Registry (τ : Type) where
  classes : List (String × ObjectClass τ)

namespace Registry

variable {τ : Type}

def empty : Registry τ := ⟨[]⟩

-- Without a kind, or with an empty one, a class is registered under its own name.
def keyOf (kind : Option String) (type : ObjectClass τ) : String :=
  match kind.getD "" with
  | "" => type.name
  | kind => kind

def register (registry : Registry τ) (kind : Option String) (type : ObjectClass τ) : Registry τ :=
  ⟨put registry.classes (keyOf kind type) type⟩

def lookup (registry : Registry τ) (kind : String) : Option (ObjectClass τ) := lastOf registry.classes kind

def contains (registry : Registry τ) (kind : String) : Bool := (registry.lookup kind).isSome

def kinds (registry : Registry τ) : List String := registry.classes.map Prod.fst

-- The object of a request, as one of a given class or else of the class that its kind is registered for.
def decodeObject (registry : Registry τ) (request : Request) (target : Option (ObjectClass τ)) : Told Refusal τ :=
  match target with
  | some type => type.read request
  | none =>
    match registry.lookup request.kind.kind with
    | none => Told.fail (.violation (.unsupportedKind request.kind.kind))
    | some type => type.read request

end Registry

abbrev Registries (τ : Type) := List (Registry τ)

inductive Registering (τ : Type) where
  | create
  | register (place : Nat) (kind : Option String) (type : ObjectClass τ)

namespace Registries

variable {τ : Type}

def step (registries : Registries τ) : Registering τ → Registries τ
  | .create => registries ++ [.empty]
  | .register place kind type => registries.modify place fun registry => registry.register kind type

def run (registries : Registries τ) (steps : List (Registering τ)) : Registries τ := steps.foldl step registries

-- What a codec reads that was made over the registry at this place, or over none.
def consulted (registries : Registries τ) (place : Option Nat) : Registry τ := registries.getD (place.getD 0) .empty

end Registries

/- The classes and schemes of the library as open ones. -/

def ResourceClass.opened (type : ResourceClass) : ObjectClass Resource :=
  ⟨type.name, fun bytes => (type.shape.decode type.name bytes).map fun object => ⟨type, object⟩⟩

def Scheme.opened (scheme : Scheme) : Registry Resource :=
  ⟨scheme.classes.map fun entry => (entry.1, entry.2.opened)⟩

end Gatehouse
