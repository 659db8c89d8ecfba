import Gatehouse.Decimal
import Mathlib.Tactic.Linarith
import Mathlib.Tactic.Ring

/- Rounding a decimal to a floating point number. The number that a decimal reads as depends on the value of the
   decimal alone, not on how many zeros its digits end with; and the shortest decimal of a number reads as that
   number, also where the search for few digits finds nothing and the exact value is taken. -/
namespace Gatehouse.Binary64

theorem leading_bit_eq : leadingBit = 2 ^ 52 := Nat.pow_eq

theorem leading_bit_positive : 0 < leadingBit := by
  rw [leading_bit_eq]
  positivity

theorem units_of_small (rank : Nat) (small : rank < 2 * leadingBit) : units rank = rank := by
  have positive := leading_bit_positive
  by_cases tiny : rank < leadingBit
  · simp [units, significand, spacing, tiny, Nat.div_eq_of_lt tiny]
  · have once : rank / leadingBit = 1 := Nat.div_eq_of_lt_le (by omega) (by omega)
    have whole := Nat.div_add_mod rank leadingBit
    rw [once] at whole
    simp only [units, significand, spacing, once, if_neg tiny]
    simp
    omega

theorem units_of_large (rank : Nat) (large : 2 * leadingBit ≤ rank) :
    units rank = (leadingBit + rank % leadingBit) * 2 ^ (rank / leadingBit - 1) := by
  have notTiny : ¬ rank < leadingBit := by
    have positive := leading_bit_positive
    omega
  simp [units, significand, spacing, notTiny]

theorem rank_below_units (rank : Nat) : rankBelow (units rank) = rank := by
  have positive := leading_bit_positive
  by_cases small : rank < 2 * leadingBit
  · rw [units_of_small rank small, rankBelow, if_pos small]
  · have large : 2 * leadingBit ≤ rank := Nat.le_of_not_lt small
    have above : 2 ≤ rank / leadingBit := (Nat.le_div_iff_mul_le positive).mpr large
    have split := Nat.div_add_mod rank leadingBit
    have place : rank % leadingBit < leadingBit := Nat.mod_lt rank positive
    rw [units_of_large rank large]
    obtain ⟨shift, shifted⟩ : ∃ shift, rank / leadingBit = shift + 2 := ⟨rank / leadingBit - 2, by omega⟩
    rw [shifted] at split
    rw [shifted, show shift + 2 - 1 = shift + 1 by omega]
    generalize rank % leadingBit = offset at split place ⊢
    have size : (leadingBit + offset) * 2 ^ (shift + 1) ≠ 0 := by positivity
    have bits : ((leadingBit + offset) * 2 ^ (shift + 1)).log2 = 52 + (shift + 1) := by
      have lower : 2 ^ (52 + (shift + 1)) = leadingBit * 2 ^ (shift + 1) := by rw [leading_bit_eq, pow_add]
      have upper : 2 ^ (52 + (shift + 1) + 1) = 2 * leadingBit * 2 ^ (shift + 1) := by
        rw [pow_succ, lower]
        ring
      rw [Nat.log2_eq_iff size, lower, upper]
      exact ⟨Nat.mul_le_mul_right _ (Nat.le_add_right _ _), Nat.mul_lt_mul_of_pos_right (by omega) (by positivity)⟩
    have many : ¬ (leadingBit + offset) * 2 ^ (shift + 1) < 2 * leadingBit := by
      have doubled : 2 ≤ 2 ^ (shift + 1) := Nat.le_self_pow (by omega) 2
      have grown := Nat.mul_le_mul (Nat.le_add_right leadingBit offset) doubled
      omega
    rw [rankBelow, if_neg many, bits]
    simp only [Nat.add_sub_cancel_left, Nat.pow_eq, Nat.mul_div_cancel _ (show 0 < 2 ^ (shift + 1) by positivity)]
    linarith

theorem nearest_scale (num den factor : Nat) (positive : 0 < factor) :
    nearest (num * factor) (den * factor) = nearest num den := by
  have cut : num * factor / (den * factor) = num / den := Nat.mul_div_mul_right num den positive
  have excess : 2 * (num * factor - units (rankBelow (num / den)) * (den * factor)) =
      2 * (num - units (rankBelow (num / den)) * den) * factor := by
    rw [← Nat.mul_assoc, ← Nat.sub_mul, Nat.mul_assoc]
  have step : den * factor * Nat.pow 2 (spacing (rankBelow (num / den))) =
      den * Nat.pow 2 (spacing (rankBelow (num / den))) * factor := Nat.mul_right_comm _ _ _
  simp only [nearest, cut, excess, step, Nat.mul_lt_mul_right positive, Nat.mul_left_inj (Nat.ne_of_gt positive)]

-- The nearest rank depends only on the ratio.
theorem nearest_ratio (num den other under : Nat) (positive : 0 < den) (above : 0 < under)
    (same : num * under = other * den) : nearest num den = nearest other under := by
  rw [← nearest_scale num den under above, same, Nat.mul_comm den under]
  exact nearest_scale other under den positive

theorem nearest_units (rank den : Nat) (positive : 0 < den) : nearest (units rank * den) den = rank := by
  simp [nearest, Nat.mul_div_cancel _ positive, rank_below_units, positive]

theorem nearest_of_small (num den : Nat) (small : 2 * num < den) : nearest num den = 0 := by
  have cut : num / den = 0 := Nat.div_eq_of_lt (by omega)
  have positive := leading_bit_positive
  have none : rankBelow 0 = 0 := by simp [rankBelow, positive]
  have nothing : units 0 = 0 := units_of_small 0 (by omega)
  have flat : spacing 0 = 0 := by simp [spacing]
  simp [nearest, cut, none, nothing, flat, small]

theorem rank_below_le_nearest (num den : Nat) : rankBelow (num / den) ≤ nearest num den := by
  simp only [nearest]
  split
  · exact Nat.le_refl _
  · split <;> omega

theorem nearest_of_large (num bits : Nat) (far : 2098 ≤ bits) (large : 2 ^ bits ≤ num) : ranks ≤ nearest num 1 := by
  have some : num ≠ 0 := Nat.ne_of_gt (Nat.lt_of_lt_of_le (by positivity) large)
  have shift : bits ≤ num.log2 := (Nat.le_log2 some).mpr large
  have many : ¬ num < 2 * leadingBit := by
    have less : 2 * leadingBit ≤ 2 ^ bits := by
      rw [leading_bit_eq, ← pow_succ']
      exact Nat.pow_le_pow_right (by decide) (by omega)
    omega
  have below : ranks ≤ rankBelow num := by
    rw [rankBelow, if_neg many, ranks]
    exact Nat.le_trans (Nat.mul_le_mul_right _ (by omega)) (Nat.le_add_right _ _)
  simpa using Nat.le_trans below (by simpa using rank_below_le_nearest num 1)

theorem of_rank_zero (negative : Bool) : ofRank negative 0 = zero negative := rfl

theorem of_rank_large (negative : Bool) (rank : Nat) (large : ranks ≤ rank) :
    ofRank negative rank = .infinite negative := by
  simp [ofRank, Nat.not_lt.mpr large]

theorem of_rank_val (negative : Bool) (rank : Fin ranks) : ofRank negative rank.val = .finite negative rank := by
  simp [ofRank]

-- The exponent is kept as a variable, since a power this large is not to be computed.
theorem units_in_one_bits : ∃ bits : Nat, 1074 = bits ∧ unitsInOne = 2 ^ bits := by
  obtain ⟨bits, many⟩ : ∃ bits : Nat, 1074 = bits := ⟨_, rfl⟩
  refine ⟨bits, many, ?_⟩
  unfold unitsInOne
  rw [many, Nat.pow_eq]

theorem far_above (digits power : Nat) (some : digits ≠ 0) (far : 400 < power) :
    ∃ bits, 2098 ≤ bits ∧ 2 ^ bits ≤ digits * 10 ^ power * unitsInOne := by
  obtain ⟨bits, many, value⟩ := units_in_one_bits
  refine ⟨3 * power + bits, by omega, ?_⟩
  rw [value, pow_add, pow_mul]
  apply Nat.mul_le_mul_right
  calc (2 ^ 3) ^ power ≤ 10 ^ power := Nat.pow_le_pow_left (by decide) power
    _ ≤ digits * 10 ^ power := Nat.le_mul_of_pos_left _ (Nat.pos_of_ne_zero some)

theorem far_below (digits places : Nat) (far : digits.log2 + 1077 ≤ 3 * places) :
    2 * (digits * unitsInOne) < 10 ^ places := by
  obtain ⟨bits, many, value⟩ := units_in_one_bits
  have size : digits < 2 ^ (digits.log2 + 1) := Nat.lt_log2_self
  rw [value]
  calc 2 * (digits * 2 ^ bits) = digits * 2 ^ (bits + 1) := by ring
    _ < 2 ^ (digits.log2 + 1) * 2 ^ (bits + 1) := Nat.mul_lt_mul_of_pos_right size (by positivity)
    _ = 2 ^ (digits.log2 + 1 + (bits + 1)) := by rw [← pow_add]
    _ ≤ 2 ^ (3 * places) := Nat.pow_le_pow_right (by decide) (by omega)
    _ = (2 ^ 3) ^ places := by rw [pow_mul]
    _ ≤ 10 ^ places := Nat.pow_le_pow_left (by decide) places

-- The two guards of `ofDecimal` agree with the rounding that they spare.
theorem of_decimal_nearest (negative : Bool) (decimal : Decimal) :
    ofDecimal negative decimal = ofRank negative
      (nearest (decimal.digits * 10 ^ decimal.power.toNat * unitsInOne) (10 ^ (-decimal.power).toNat)) := by
  obtain ⟨digits, power⟩ := decimal
  simp only [ofDecimal, Nat.pow_eq]
  by_cases nothing : digits = 0
  · subst nothing
    rw [if_pos rfl, nearest_of_small _ _ (by simp), of_rank_zero]
  · rw [if_neg nothing]
    by_cases far : 400 < power
    · have still : (-power).toNat = 0 := by omega
      obtain ⟨bits, many, large⟩ := far_above digits power.toNat nothing (by omega)
      rw [if_pos far, still, pow_zero, of_rank_large negative _ (nearest_of_large _ bits many large)]
    · rw [if_neg far]
      by_cases positive : 0 ≤ power
      · have still : (-power).toNat = 0 := by omega
        rw [if_pos positive, still, pow_zero]
      · have still : power.toNat = 0 := by omega
        rw [if_neg positive, still, pow_zero, Nat.mul_one]
        by_cases small : digits.log2 + 1077 ≤ 3 * (-power).toNat
        · rw [if_pos small, nearest_of_small _ _ (far_below digits _ small), of_rank_zero]
        · rw [if_neg small]

-- Zeros at the end of the digits count as powers of ten.
theorem of_decimal_shift (negative : Bool) (digits zeros : Nat) (power : Int) :
    ofDecimal negative ⟨digits * 10 ^ zeros, power⟩ = ofDecimal negative ⟨digits, power + zeros⟩ := by
  rw [of_decimal_nearest, of_decimal_nearest]
  apply congrArg (ofRank negative)
  apply nearest_ratio _ _ _ _ (by positivity) (by positivity)
  have exponents : zeros + power.toNat + (-(power + zeros)).toNat = (power + zeros).toNat + (-power).toNat := by omega
  calc digits * 10 ^ zeros * 10 ^ power.toNat * unitsInOne * 10 ^ (-(power + zeros)).toNat
      = digits * unitsInOne * 10 ^ (zeros + power.toNat + (-(power + zeros)).toNat) := by ring
    _ = digits * unitsInOne * 10 ^ ((power + zeros).toNat + (-power).toNat) := by rw [exponents]
    _ = digits * 10 ^ (power + zeros).toNat * unitsInOne * 10 ^ (-power).toNat := by ring

theorem exact_bits (rank bits : Nat) (many : 1074 = bits) : exact rank = ⟨units rank * 5 ^ bits, -bits⟩ := by
  have power : -1074 = -(bits : Int) := by omega
  unfold exact
  rw [power, many, Nat.pow_eq]

theorem of_decimal_exact (negative : Bool) (rank : Fin ranks) :
    ofDecimal negative (exact rank) = .finite negative rank := by
  obtain ⟨bits, many, value⟩ := units_in_one_bits
  have tens : units rank * 5 ^ bits * 10 ^ (-(bits : Int)).toNat * 2 ^ bits = units rank * 10 ^ bits := by
    have nothing : (-(bits : Int)).toNat = 0 := by omega
    have ten : 5 * 2 = 10 := rfl
    rw [nothing, pow_zero, Nat.mul_one, Nat.mul_assoc, ← mul_pow, ten]
  rw [of_decimal_nearest, exact_bits rank bits many, value]
  simp only [tens, neg_neg, Int.toNat_natCast]
  rw [nearest_units _ _ (by positivity), of_rank_val]

theorem of_decimal_trimmed (negative : Bool) (decimal : Decimal) :
    ofDecimal negative decimal.trimZeros = ofDecimal negative decimal := by
  fun_induction Decimal.trimZeros decimal with
  | case1 decimal nothing => rfl
  | case2 decimal some round ih =>
    have whole : decimal.digits / 10 * 10 ^ 1 = decimal.digits := by omega
    have shifted := of_decimal_shift negative (decimal.digits / 10) 1 decimal.power
    rw [whole] at shifted
    rw [ih]
    exact shifted.symm
  | case3 decimal some ragged => rfl

theorem of_decimal_sign (negative : Bool) (decimal : Decimal) (rank : Fin ranks)
    (unsigned : ofDecimal false decimal = .finite false rank) : ofDecimal negative decimal = .finite negative rank := by
  rw [of_decimal_nearest] at unsigned ⊢
  generalize nearest _ _ = found at unsigned ⊢
  by_cases small : found < ranks
  · simp only [ofRank, dif_pos small, Binary64.finite.injEq, true_and] at unsigned ⊢
    exact unsigned
  · simp [ofRank, small] at unsigned

theorem shortest_reads_back (negative : Bool) (rank : Fin ranks) :
    ofDecimal negative (Decimal.shortest rank) = .finite negative rank := by
  apply of_decimal_sign
  simp only [Decimal.shortest, of_decimal_trimmed]
  generalize search : List.findSome? _ _ = found
  cases found with
  | none => exact of_decimal_exact false rank
  | some decimal =>
    obtain ⟨before, count, after, split, picked, earlier⟩ := List.findSome?_eq_some_iff.mp search
    split at picked
    · simpa using List.find?_some picked
    · cases picked

theorem of_decimal_zero (negative : Bool) (rank : Fin ranks) (zeroRank : rank.val = 0) (power : Int) :
    ofDecimal negative ⟨0, power⟩ = .finite negative rank := by
  rw [← of_rank_val negative rank, zeroRank]
  simp [ofDecimal, zero]

theorem zero_of_digits (negative : Bool) (rank : Fin ranks) (decimal : Decimal) (nothing : decimal.digits = 0)
    (back : ofDecimal negative decimal = .finite negative rank) : rank.val = 0 := by
  have positive : 0 < ranks := Nat.mul_pos (by decide) leading_bit_positive
  simp only [ofDecimal, nothing, if_pos, zero, ofRank, dif_pos positive, Binary64.finite.injEq] at back
  rw [← back.2]

end Gatehouse.Binary64
