import Gatehouse.Journal.Threshold
import Gatehouse.Text.Percent
import Gatehouse.Text.Split

/- The loggers that libraries write to. They are named by dotted paths below one root. A record below the level that is
   set for its logger is turned off. Any other climbs from its logger to the root; each collector on its way puts it
   into the journal, and a logger that keeps its records ends the climb. -/
namespace Gatehouse

-- The parts of a dotted name, the last one first: without its first part a path leads to the logger above.
abbrev LoggerPath := List (List Char)

structure Logger where
  -- Zero leaves the level to the logger above.
  level : Int
  collectors : Nat
  keeps : Bool
deriving DecidableEq

structure LibraryRecord where
  logger : String
  level : Int
  text : String

-- What a library asks of a logger: the text of the record is its template, filled with its values.
structure LibraryCall where
  logger : String
  level : Int
  template : String
  values : List Json

namespace Loggers

def rootNames : List String := ["", "root"]

def pathOf (name : String) : LoggerPath :=
  if rootNames.contains name then [] else (Text.split '.' name.toList).reverse

-- A logger with no settings of its own.
def bare : Logger := ⟨0, 0, false⟩

-- The loggers that may differ from a bare one.
abbrev Tree := List (LoggerPath × Logger)

def loggerAt (tree : Tree) (path : LoggerPath) : Logger := (tree.lookup path).getD bare

def change (tree : Tree) (path : LoggerPath) (settings : Logger → Logger) : Tree :=
  (path, settings (loggerAt tree path)) :: tree.filter fun entry => entry.1 != path

-- Before anything is configured the root lets warnings through, and nothing collects them.
def initial : Tree := [([], ⟨Level.warning.value, 0, false⟩)]

-- The loggers of libraries that otherwise keep their records to themselves.
def serverNames : List String := ["uvicorn", "uvicorn.error", "uvicorn.access", "fastapi"]

def serverPaths : List LoggerPath := serverNames.map pathOf

def takingAll (logger : Logger) : Logger := { logger with level := 0, collectors := 1 }

def collecting (logger : Logger) : Logger := { logger with collectors := 1, keeps := true }

-- Gives the root and the loggers of the server one collector each, in place of those they had.
def configure (tree : Tree) : Tree :=
  serverPaths.foldl (fun tree path => change tree path collecting) (change tree [] takingAll)

-- The level that is set for a logger, by itself or by the nearest logger above that sets one.
def levelAt (tree : Tree) : LoggerPath → Int
  | [] => (loggerAt tree []).level
  | part :: above =>
    let logger := loggerAt tree (part :: above)
    if logger.level = 0 then levelAt tree above else logger.level

-- The number of collectors that a record meets on its way from a logger to the root.
def met (tree : Tree) : LoggerPath → Nat
  | [] => (loggerAt tree []).collectors
  | part :: above =>
    let logger := loggerAt tree (part :: above)
    if logger.keeps then logger.collectors else logger.collectors + met tree above

-- The names that libraries have for levels.
def libraryNames : List (Int × String) :=
  [(0, "NOTSET"), (10, "DEBUG"), (20, "INFO"), (30, "WARNING"), (40, "ERROR"), (50, "CRITICAL")]

def libraryName (value : Int) : String := (libraryNames.lookup value).getD ("Level " ++ toString value)

-- The levels that the journal has by name.
def namedLevels : List Level := [.trace, .debug, .info, .success, .warning, .error, .critical]

-- A level is taken over by its name, and by its value where the journal has no level of that name.
def levelOf (value : Int) : Level :=
  (namedLevels.find? fun level => level.name == libraryName value).getD (.numbered value)

-- The number of collectors that take a record. A level that is not positive turns it off.
def takers (tree : Tree) (name : String) (level : Int) : Nat :=
  let path := pathOf name
  if 0 < level ∧ levelAt tree path ≤ level then met tree path else 0

-- The text is no template of the journal: it is put there as it stands.
def collected (tree : Tree) (record : LibraryRecord) : Journal :=
  List.replicate (takers tree record.logger record.level) ⟨levelOf record.level, record.text⟩

-- A template that no collector asks for is not filled.
def log (tree : Tree) (call : LibraryCall) : Except Text.Percent.Flaw Journal :=
  if takers tree call.logger call.level = 0 then .ok []
  else
    (Text.Percent.fill call.template call.values).map fun text => collected tree ⟨call.logger, call.level, text⟩

end Loggers
end Gatehouse
