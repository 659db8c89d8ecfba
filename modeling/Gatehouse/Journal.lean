/- The journal: what a computation tells while it runs. A telling computation gives its entries in order together
   with its outcome, and a failure keeps what was told before it. -/
namespace Gatehouse

inductive Level where
  | trace
  | debug
  | info
  | success
  | warning
  | error
  | critical
  | numbered (value : Int)
deriving DecidableEq

def Level.name : Level → String
  | .trace => "TRACE"
  | .debug => "DEBUG"
  | .info => "INFO"
  | .success => "SUCCESS"
  | .warning => "WARNING"
  | .error => "ERROR"
  | .critical => "CRITICAL"
  | .numbered value => "Level " ++ toString value

structure Entry where
  level : Level
  text : String
deriving DecidableEq

abbrev Journal := List Entry

structure Told (ε α : Type) where
  journal : Journal
  outcome : Except ε α

namespace Told

def lift {ε α : Type} (outcome : Except ε α) : Told ε α := ⟨[], outcome⟩

def fail {ε α : Type} (error : ε) : Told ε α := ⟨[], .error error⟩

def tell {ε : Type} (level : Level) (text : String) : Told ε Unit := ⟨[⟨level, text⟩], .ok ()⟩

def andThen {ε α β : Type} (first : Told ε α) (next : α → Told ε β) : Told ε β :=
  match first.outcome with
  | .error error => ⟨first.journal, .error error⟩
  | .ok value => ⟨first.journal ++ (next value).journal, (next value).outcome⟩

def mapError {ε δ α : Type} (f : ε → δ) (told : Told ε α) : Told δ α := ⟨told.journal, told.outcome.mapError f⟩

instance {ε : Type} : Monad (Told ε) where
  pure value := ⟨[], .ok value⟩
  bind := andThen

end Told
end Gatehouse
