import Gatehouse.Journal

/- Levels are ordered by their values; entries below the threshold are not kept. -/
namespace Gatehouse

def Level.value : Level → Int
  | .trace => 5
  | .debug => 10
  | .info => 20
  | .success => 25
  | .warning => 30
  | .error => 40
  | .critical => 50
  | .numbered value => value

def Journal.above (threshold : Level) (journal : Journal) : Journal :=
  journal.filter fun entry => threshold.value ≤ entry.level.value

-- How much a run of the program tells, and in which form.
structure Verbosity where
  debug : Bool
  json : Bool
deriving DecidableEq

namespace Verbosity

def threshold (verbosity : Verbosity) : Level := if verbosity.debug then .debug else .info

def keep (verbosity : Verbosity) (journal : Journal) : Journal := journal.above verbosity.threshold

def configured (verbosity : Verbosity) : Journal :=
  [⟨.debug, "Logging configured (level=" ++ verbosity.threshold.name ++
    ", json=" ++ (if verbosity.json then "True" else "False") ++ ")"⟩]

end Verbosity
end Gatehouse
