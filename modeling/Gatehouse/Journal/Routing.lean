import Gatehouse.Journal.Loggers

/- Where entries come from and where they go. Libraries tell theirs through loggers; outlets show what is told from a
   level on. Configuring sets the loggers up and leaves one outlet in place of all there were. -/
namespace Gatehouse

structure Outlet where
  threshold : Level
  json : Bool
deriving DecidableEq

def Outlet.shown (outlet : Outlet) (journal : Journal) : Journal := journal.above outlet.threshold

def Verbosity.outlet (verbosity : Verbosity) : Outlet := ⟨verbosity.threshold, verbosity.json⟩

structure Routing where
  loggers : Loggers.Tree
  outlets : List Outlet

namespace Routing

def initial : Routing := ⟨Loggers.initial, [⟨.debug, false⟩]⟩

def configure (routing : Routing) (verbosity : Verbosity) : Routing :=
  ⟨Loggers.configure routing.loggers, [verbosity.outlet]⟩

def configureAll (routing : Routing) (verbosities : List Verbosity) : Routing := verbosities.foldl configure routing

def add (routing : Routing) (outlets : List Outlet) : Routing := { routing with outlets := routing.outlets ++ outlets }

def log (routing : Routing) (call : LibraryCall) : Except Text.Percent.Flaw Journal := Loggers.log routing.loggers call

-- What the outlets show of a journal, one after the other.
def shown (routing : Routing) (journal : Journal) : List Journal :=
  routing.outlets.map fun outlet => outlet.shown journal

end Routing
end Gatehouse
