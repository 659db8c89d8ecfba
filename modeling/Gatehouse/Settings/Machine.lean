import Gatehouse.Json.Torn
import Gatehouse.PatternText.Grammar
import Gatehouse.Settings.Failure

/- What the program runs on: the characters that are known to it by name, and a stack that may end within a task. -/
namespace Gatehouse

/-- The tasks that go as deep as what they are about: to decode a variable, or required annotations that are given as a
    text; to compile a pattern when it is checked, as characters or as bytes; to compile it when it is to be used. -/
inductive Errand where
  | variable (source : Source)
  | annotations
  | check
  | checkBytes
  | use

/-- A machine says of a task for which its stack is too small what is told of it. -/
structure Machine where
  named : String → Option Char
  exhausted : Errand → String → Option String

-- Why a task came to nothing.
inductive Halt (φ : Type) where
  | failed (cause : φ)
  | exhausted (message : String)

namespace Machine

-- No character is known by name, and every stack is large enough.
def bare : Machine := ⟨fun _ => none, fun _ _ => none⟩

section

variable {φ α : Type} (machine : Machine) (errand : Errand)

def within (text : String) (outcome : Except φ α) : Except (Halt φ) α :=
  match machine.exhausted errand text with
  | some message => .error (.exhausted message)
  | none => outcome.mapError .failed

theorem within_ok (text : String) (outcome : Except φ α) (value : α) :
    machine.within errand text outcome = .ok value ↔ machine.exhausted errand text = none ∧ outcome = .ok value := by
  rw [within]
  cases machine.exhausted errand text with
  | some message => simp
  | none =>
    cases outcome with
    | ok found =>
      constructor
      · intro same
        cases same
        exact ⟨rfl, rfl⟩
      · rintro ⟨_, same⟩
        cases same
        rfl
    | error cause => exact iff_of_false nofun nofun

def decode (text : String) : Except (Halt Json.Failure) Json := machine.within errand text (Json.decode text)

def compile (text : String) : Except (Halt PatternText.Invalid) Pattern :=
  machine.within errand text (PatternText.readIn (.characters machine.named) text.toList)

-- Bytes are compiled as the characters of their numbers.
def compileBytes (text : String) : Except (Halt PatternText.Invalid) Pattern :=
  machine.within errand text (PatternText.readIn .bytes text.toList)

end

end Machine
end Gatehouse
