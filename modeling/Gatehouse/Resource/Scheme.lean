import Gatehouse.Resource.Basic

/- Which class of objects each kind stands for. Kinds are listed in the order in which they were first
   registered; a later registration of a kind replaces the earlier one. -/
namespace Gatehouse

structure Scheme where
  classes : List (String × ResourceClass)

namespace Scheme

def empty : Scheme := ⟨[]⟩

-- Without a kind, or with an empty one, a class is registered under its own name.
def register (scheme : Scheme) (kind : Option String) (type : ResourceClass) : Scheme :=
  let key := match kind.getD "" with
    | "" => type.name
    | kind => kind
  ⟨put scheme.classes key type⟩

def lookup (scheme : Scheme) (kind : String) : Option ResourceClass := lastOf scheme.classes kind

def contains (scheme : Scheme) (kind : String) : Bool := (scheme.lookup kind).isSome

def kinds (scheme : Scheme) : List String := scheme.classes.map Prod.fst

def ofList (classes : List (Option String × ResourceClass)) : Scheme :=
  classes.foldl (fun scheme (kind, type) => scheme.register kind type) empty

def standard : Scheme :=
  ofList [(none, .pod), (none, .deployment), (none, .statefulSet), (none, .daemonSet), (none, .job),
    (none, .service), (none, .ingress)]

end Scheme
end Gatehouse
