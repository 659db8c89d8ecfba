import Gatehouse.Proofs.Json.Members
import Gatehouse.Schema.Document

/- A format is faithful when a value that it read is written as JSON that has room in a document and reads as the
   same value. Every format of the documents is. -/
namespace Gatehouse

namespace Format

def Faithful {α : Type} (format : Format α) : Prop :=
  ∀ room json value, room ≤ nestingRoom → json.Fits room → format.read json = .ok value →
    (format.write value).Fits room ∧ format.read (format.write value) = .ok value

theorem text_faithful : text.Faithful := by
  intro room json value _ _ read
  cases json with
  | string written =>
    cases read
    exact ⟨.string room value, rfl⟩
  | _ => cases read

/- An integer that was read has no more digits than a document may have, from whatever it was read. -/

theorem signed_value_short (negative : Bool) (digits : List Char) (value : Int) (nonempty : digits ≠ [])
    (every : ∀ c ∈ digits, Json.isDigit c = true) (read : signedValue (negative, digits) = .ok value) :
    Json.ShortInt value := by
  rw [signedValue] at read
  split at read
  · cases read
  · rename_i short
    cases read
    exact Json.short_of_digits digits negative nonempty every (Nat.le_of_not_lt short)

theorem plain_integer_digits (written digits : List Char) (negative : Bool)
    (read : plainInteger? written = some (negative, digits)) : digits ≠ [] ∧ ∀ c ∈ digits, Json.isDigit c = true := by
  have checked (sign : Bool) (run : List Char) (accepted : (if run.isEmpty || !run.all isDecimalDigit then none
      else if run.head? == some '0' && run.length != 1 then none else some (sign, run)) = some (negative, digits)) :
      digits ≠ [] ∧ ∀ c ∈ digits, Json.isDigit c = true := by
    split at accepted
    · cases accepted
    · rename_i plain
      split at accepted
      · cases accepted
      · cases accepted
        simp only [Bool.or_eq_true, not_or, Bool.not_eq_true, Bool.not_eq_false', List.all_eq_true] at plain
        exact ⟨by simpa using plain.1, plain.2⟩
  exact checked _ _ read

theorem integer_of_text_short (written : String) (value : Int) (read : integerOfText written = .ok value) :
    Json.ShortInt value := by
  unfold integerOfText at read
  dsimp only at read
  split at read
  · rename_i parts plain
    obtain ⟨nonempty, every⟩ := plain_integer_digits _ _ _ plain
    exact signed_value_short _ _ value nonempty every read
  · split at read
    · rename_i parts tidy
      obtain ⟨tidied, _, plain⟩ := Option.bind_eq_some_iff.mp tidy
      obtain ⟨nonempty, every⟩ := plain_integer_digits _ _ _ plain
      exact signed_value_short _ _ value nonempty every read
    · cases read

theorem short_of_bound (value : Int) (digits : Nat) (positive : 0 < digits) (few : digits ≤ Json.digitLimit)
    (bound : value.natAbs < 10 ^ digits) : Json.ShortInt value :=
  Nat.le_trans (Decimal.numeral_length _ digits positive bound) few

theorem long_of_bound (value : Nat) (bound : 10 ^ Json.digitLimit ≤ value) : ¬ Json.ShortInt value := by
  intro short
  rw [Json.ShortInt, Int.natAbs_natCast] at short
  have small : value < 10 ^ (Decimal.numeral value).length := by
    have size := Decimal.value_of_bound _ (Decimal.numeral_digits value)
    rwa [Decimal.value_of_numeral] at size
  have few := Nat.pow_le_pow_right (show 0 < 10 by decide) short
  omega

theorem integer_of_number_short (number : Binary64) (value : Int) (read : integerOfNumber number = .ok value) :
    Json.ShortInt value := by
  unfold integerOfNumber at read
  split at read
  · cases read
  · split at read
    · cases read
    · split at read
      · rename_i small
        cases read
        have bound : wordLimit < 10 ^ 19 := by decide
        exact short_of_bound value 19 (by decide) (by decide) (Nat.lt_trans small bound)
      · cases read

theorem read_integer_short (room : Nat) (json : Json) (value : Int) (fits : json.Fits room)
    (read : readInteger json = .ok value) : Json.ShortInt value := by
  cases json with
  | int number =>
    cases read
    cases fits
    assumption
  | bool truth =>
    cases truth <;> cases read <;> exact short_of_bound _ 1 (by decide) (by decide) (by decide)
  | float number => exact integer_of_number_short number value read
  | string written => exact integer_of_text_short written value read
  | _ => cases read

theorem lifted_ok {α : Type} (outcome : Except Fault α) (value : α) :
    lifted outcome = .ok value ↔ outcome = .ok value := by
  cases outcome <;> simp [lifted, Checked.fault]

theorem integer_faithful : integer.Faithful := by
  intro room json value _ fits read
  have short := read_integer_short room json value fits ((lifted_ok _ _).mp read)
  exact ⟨.int room value short, rfl⟩

theorem boolean_faithful : boolean.Faithful := fun room _ value _ _ _ => ⟨.bool room value, rfl⟩

theorem named_faithful {α : Type} (values : List α) (name : α → String) : (named values name).Faithful := by
  intro room json value _ _ read
  cases json with
  | string written =>
    refine ⟨.string room (name value), ?_⟩
    simp only [named] at read ⊢
    split at read
    · rename_i found located
      cases read
      have listed : name value = written := by simpa using List.find?_some located
      rw [listed, located]
    · cases read
  | _ => cases read

theorem anything_faithful : anything.Faithful := by
  intro room json value _ fits read
  cases read
  exact ⟨Json.collapsed_fits room json fits, congrArg Except.ok (Json.collapsed_twice json)⟩

theorem members_faithful : members.Faithful := by
  intro room json value _ fits read
  cases json with
  | object entries =>
    cases read
    have again := Json.collapsed_twice (.object entries)
    simp only [Json.collapsed, Json.object.injEq] at again
    exact ⟨Json.collapsed_fits room _ fits, congrArg Except.ok again⟩
  | _ => cases read

end Format
end Gatehouse
