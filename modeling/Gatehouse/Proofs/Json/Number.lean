import Gatehouse.Json.Reader
import Gatehouse.Json.Writer
import Gatehouse.Proofs.Number.Rounding
import Mathlib.Data.List.TakeDrop

/- Numbers in JSON text read back as they were written. Every form that a layout gives a decimal keeps its value, so
   a finite number comes back whatever the style; an integer comes back when it has no more digits than the reader
   takes. -/
namespace Gatehouse

namespace Decimal

/- Runs of digits and the numbers they write. -/

theorem digit_char_is_digit (value : Nat) (small : value < 10) : Json.isDigit (digitChar value) = true := by
  have every : ∀ value : Fin 10, Json.isDigit (digitChar value) = true := by decide
  exact every ⟨value, small⟩

theorem digit_char_value (value : Nat) (small : value < 10) : (digitChar value).toNat - 48 = value := by
  have every : ∀ value : Fin 10, (digitChar value).toNat - 48 = value := by decide
  exact every ⟨value, small⟩

theorem digit_char_nonzero (value : Nat) (small : value < 10) (nonzero : value ≠ 0) : digitChar value ≠ '0' := by
  have every : ∀ value : Fin 10, value.val ≠ 0 → digitChar value ≠ '0' := by decide
  exact every ⟨value, small⟩ nonzero

theorem numeral_digits (value : Nat) : ∀ c ∈ numeral value, Json.isDigit c = true := by
  fun_induction numeral value with
  | case1 value small =>
    intro c member
    rw [List.mem_singleton.mp member]
    exact digit_char_is_digit value small
  | case2 value large ih =>
    intro c member
    rcases List.mem_append.mp member with earlier | last
    · exact ih c earlier
    · rw [List.mem_singleton.mp last]
      exact digit_char_is_digit _ (Nat.mod_lt _ (by decide))

theorem numeral_nonempty (value : Nat) : numeral value ≠ [] := by
  unfold numeral
  split <;> simp

theorem numeral_head (value : Nat) (nonzero : value ≠ 0) : (numeral value).head? ≠ some '0' := by
  fun_induction numeral value with
  | case1 value small => simpa using digit_char_nonzero value small nonzero
  | case2 value large ih =>
    rw [List.head?_append, List.head?_eq_some_head (numeral_nonempty _)] at *
    exact ih (by omega)

theorem numeral_zero : numeral 0 = ['0'] := by
  unfold numeral
  rfl

theorem value_of_append (left right : List Char) :
    valueOf (left ++ right) = valueOf left * 10 ^ right.length + valueOf right := by
  have folded (total : Nat) : right.foldl (fun total c => total * 10 + (c.toNat - 48)) total =
      total * 10 ^ right.length + valueOf right := by
    induction right generalizing total with
    | nil => simp [valueOf]
    | cons c rest ih =>
      simp only [valueOf, List.foldl_cons, List.length_cons] at ih ⊢
      rw [ih, ih (0 * 10 + (c.toNat - 48))]
      ring
  rw [valueOf, List.foldl_append, folded, ← valueOf]

theorem value_of_numeral (value : Nat) : valueOf (numeral value) = value := by
  fun_induction numeral value with
  | case1 value small => simpa [valueOf] using digit_char_value value small
  | case2 value large ih =>
    have last := digit_char_value (value % 10) (Nat.mod_lt _ (by decide))
    rw [value_of_append, ih]
    simp only [valueOf, List.foldl_cons, List.foldl_nil, List.length_singleton, last]
    omega

theorem value_of_zeros (count : Nat) : valueOf (zeros count) = 0 := by
  induction count with
  | zero => rfl
  | succ count ih =>
    have split : zeros (count + 1) = ['0'] ++ zeros count := rfl
    rw [split, value_of_append, ih]
    simp [valueOf]

theorem value_of_bound (digits : List Char) (every : ∀ c ∈ digits, Json.isDigit c = true) :
    valueOf digits < 10 ^ digits.length := by
  induction digits with
  | nil => decide
  | cons c rest ih =>
    have later := ih fun d member => every d (List.mem_cons_of_mem _ member)
    have first : c.toNat - 48 < 10 := by
      have digit := every c List.mem_cons_self
      simp only [Json.isDigit, Bool.and_eq_true, decide_eq_true_eq] at digit
      have upper : c.toNat ≤ 57 := digit.2
      omega
    have split : c :: rest = [c] ++ rest := rfl
    rw [split, value_of_append, List.length_append, List.length_singleton]
    have single : valueOf [c] = c.toNat - 48 := by simp [valueOf]
    rw [single, pow_add, pow_one]
    calc (c.toNat - 48) * 10 ^ rest.length + valueOf rest < (c.toNat - 48) * 10 ^ rest.length + 10 ^ rest.length :=
          Nat.add_lt_add_left later _
      _ = (c.toNat - 48 + 1) * 10 ^ rest.length := by ring
      _ ≤ 10 * 10 ^ rest.length := Nat.mul_le_mul_right _ (by omega)

theorem numeral_length (value length : Nat) (positive : 0 < length) (small : value < 10 ^ length) :
    (numeral value).length ≤ length := by
  induction length generalizing value with
  | zero => omega
  | succ length ih =>
    unfold numeral
    split
    · simp
    · rename_i large
      have longer : 0 < length := by
        cases length with
        | zero => omega
        | succ length => omega
      have shorter := ih (value / 10) longer (by rw [pow_succ] at small; omega)
      simpa using shorter

end Decimal

namespace Json

def Closes (rest : List Char) : Prop := ∀ c ∈ rest.head?, c = ',' ∨ c = ']' ∨ c = '\x7d'

def StopsDigits (rest : List Char) : Prop := ∀ c ∈ rest.head?, isDigit c = false

theorem closes_stops_digits (rest : List Char) (closes : Closes rest) : StopsDigits rest := by
  intro c first
  rcases closes c first with rfl | rfl | rfl <;> rfl

theorem span_digits (digits rest : List Char) (every : ∀ c ∈ digits, isDigit c = true) (stops : StopsDigits rest) :
    (digits ++ rest).span isDigit = (digits, rest) := by
  have nothing : rest.takeWhile isDigit = [] ∧ rest.dropWhile isDigit = rest := by
    cases rest with
    | nil => exact ⟨rfl, rfl⟩
    | cons c tail => simp [stops c rfl]
  rw [List.span_eq_takeWhile_dropWhile, List.takeWhile_append_of_pos every, List.dropWhile_append_of_pos every,
    nothing.1, nothing.2, List.append_nil]

def numberAfter (negative : Bool) (start whole rest : List Char) : Except Failure (Json × List Char) :=
  let (places, rest) := fraction rest
  let (exponent, rest) := power rest
  if places.isEmpty && exponent.isNone then
    if digitLimit < whole.length then fail (.tooManyDigits whole.length) start
    else
      let size : Int := Decimal.valueOf whole
      .ok (.int (if negative then -size else size), rest)
  else
    let decimal : Decimal := ⟨Decimal.valueOf (whole ++ places), exponent.getD 0 - places.length⟩
    .ok (.float (.ofDecimal negative decimal), rest)

theorem number_from_whole (negative : Bool) (start whole rest : List Char) (nonempty : whole ≠ [])
    (every : ∀ c ∈ whole, isDigit c = true) (canonical : whole = ['0'] ∨ whole.head? ≠ some '0')
    (stops : StopsDigits rest) : numberFrom negative start (whole ++ rest) = numberAfter negative start whole rest := by
  rcases canonical with rfl | first
  · rfl
  · obtain ⟨c, tail, rfl⟩ := List.exists_cons_of_ne_nil nonempty
    have spanned := span_digits _ _ every stops
    generalize same : c :: tail ++ rest = text at spanned
    unfold numberFrom
    split
    rename_i read left taken
    have parts : (read, left) = (c :: tail, rest) := by
      rw [← taken]
      split
      · exact absurd (congrArg List.head? same) first
      · exact spanned
    cases parts
    rfl

theorem fraction_absent (rest : List Char) (other : ∀ c ∈ rest.head?, c ≠ '.') : fraction rest = ([], rest) := by
  cases rest with
  | nil => rfl
  | cons c tail =>
    unfold fraction
    split
    · rename_i same
      exact absurd (List.cons.inj same).1 (other c rfl)
    · rfl

theorem fraction_present (places rest : List Char) (nonempty : places ≠ []) (every : ∀ c ∈ places, isDigit c = true)
    (stops : StopsDigits rest) : fraction ('.' :: (places ++ rest)) = (places, rest) := by
  obtain ⟨c, tail, rfl⟩ := List.exists_cons_of_ne_nil nonempty
  have first : isDigit c = true := every c List.mem_cons_self
  simp only [fraction, List.cons_append, List.takeWhile_cons_of_pos first, List.isEmpty_cons]
  exact span_digits _ _ every stops

theorem power_absent (rest : List Char) (other : ∀ c ∈ rest.head?, c ≠ 'e' ∧ c ≠ 'E') : power rest = (none, rest) := by
  cases rest with
  | nil => rfl
  | cons c tail =>
    have letter : (c == 'e' || c == 'E') = false := by simpa using other c rfl
    unfold power
    split <;> simp_all

theorem zeros_digits (count : Nat) : ∀ c ∈ Decimal.zeros count, isDigit c = true := by
  intro c member
  rw [List.eq_of_mem_replicate member]
  rfl

theorem zero_digits : ∀ c ∈ ['0'], isDigit c = true := zeros_digits 1

def powerDigits (value : Int) : List Char :=
  Decimal.zeros (2 - (Decimal.numeral value.natAbs).length) ++ Decimal.numeral value.natAbs

theorem power_digits_digits (value : Int) : ∀ c ∈ powerDigits value, isDigit c = true := by
  intro c member
  rcases List.mem_append.mp member with zero | digit
  · exact zeros_digits _ c zero
  · exact Decimal.numeral_digits _ c digit

theorem power_digits_value (value : Int) : Decimal.valueOf (powerDigits value) = value.natAbs := by
  rw [powerDigits, Decimal.value_of_append, Decimal.value_of_zeros, Decimal.value_of_numeral]
  simp

theorem power_digits_nonempty (value : Int) : powerDigits value ≠ [] := by
  simp [powerDigits, Decimal.numeral_nonempty]

theorem power_present (value : Int) (rest : List Char) (stops : StopsDigits rest) :
    power ('e' :: (Decimal.exponent value ++ rest)) = (some value, rest) := by
  have spanned := span_digits _ _ (power_digits_digits value) stops
  have begun : ((powerDigits value ++ rest).takeWhile isDigit).isEmpty = false := by
    have taken : (powerDigits value ++ rest).takeWhile isDigit = powerDigits value := by
      rw [List.span_eq_takeWhile_dropWhile] at spanned
      exact (Prod.mk.inj spanned).1
    rw [taken]
    simpa using power_digits_nonempty value
  by_cases negative : value < 0
  · have text : Decimal.exponent value = '-' :: powerDigits value := by simp [Decimal.exponent, powerDigits, negative]
    have signed : -(value.natAbs : Int) = value := by omega
    rw [text]
    simp only [List.cons_append, power, begun, spanned, power_digits_value, signed]
    rfl
  · have text : Decimal.exponent value = '+' :: powerDigits value := by simp [Decimal.exponent, powerDigits, negative]
    have signed : (value.natAbs : Int) = value := by omega
    rw [text]
    simp only [List.cons_append, power, begun, spanned, power_digits_value, signed]
    rfl

/- Whole numbers and floating point numbers as they are written. -/

theorem number_after_whole (negative : Bool) (start whole rest : List Char) (closes : Closes rest) :
    numberAfter negative start whole rest =
      if digitLimit < whole.length then fail (.tooManyDigits whole.length) start
      else .ok (.int (if negative then -(Decimal.valueOf whole : Int) else Decimal.valueOf whole), rest) := by
  have point : ∀ c ∈ rest.head?, c ≠ '.' := by
    intro c first
    rcases closes c first with rfl | rfl | rfl <;> decide
  have letter : ∀ c ∈ rest.head?, c ≠ 'e' ∧ c ≠ 'E' := by
    intro c first
    rcases closes c first with rfl | rfl | rfl <;> decide
  simp [numberAfter, fraction_absent rest point, power_absent rest letter]

theorem number_after_integer (negative : Bool) (start whole rest : List Char) (short : whole.length ≤ digitLimit)
    (closes : Closes rest) : numberAfter negative start whole rest =
      .ok (.int (if negative then -(Decimal.valueOf whole : Int) else Decimal.valueOf whole), rest) := by
  rw [number_after_whole negative start whole rest closes, if_neg (Nat.not_lt.mpr short)]

theorem numeral_canonical (value : Nat) : Decimal.numeral value = ['0'] ∨ (Decimal.numeral value).head? ≠ some '0' := by
  by_cases zero : value = 0
  · exact .inl (zero ▸ Decimal.numeral_zero)
  · exact .inr (Decimal.numeral_head value zero)

theorem numeral_not_minus (value : Nat) (rest : List Char) :
    ∃ c tail, Decimal.numeral value ++ rest = c :: tail ∧ isDigit c = true := by
  obtain ⟨c, tail, same⟩ := List.exists_cons_of_ne_nil (Decimal.numeral_nonempty value)
  refine ⟨c, tail ++ rest, by rw [same]; rfl, Decimal.numeral_digits value c ?_⟩
  rw [same]
  exact List.mem_cons_self

theorem number_negative (rest : List Char) : number ('-' :: rest) = numberFrom true ('-' :: rest) rest := rfl

theorem number_positive (c : Char) (rest : List Char) (digit : isDigit c = true) :
    number (c :: rest) = numberFrom false (c :: rest) (c :: rest) := by
  unfold number
  split
  · rename_i same
    rw [(List.cons.inj same).1] at digit
    cases digit
  · rfl

theorem write_int_number (value : Int) (rest : List Char) (closes : Closes rest) : ∃ start,
    number (writeInt value ++ rest) =
      numberAfter (decide (value < 0)) start (Decimal.numeral value.natAbs) rest := by
  have stops := closes_stops_digits rest closes
  have whole (negative : Bool) (start : List Char) := number_from_whole negative start _ rest
    (Decimal.numeral_nonempty value.natAbs) (Decimal.numeral_digits value.natAbs)
    (numeral_canonical value.natAbs) stops
  by_cases negative : value < 0
  · rw [writeInt, if_pos negative, List.cons_append, number_negative, whole, decide_eq_true negative]
    exact ⟨_, rfl⟩
  · obtain ⟨c, tail, same, digit⟩ := numeral_not_minus value.natAbs rest
    rw [writeInt, if_neg negative, same, number_positive c tail digit, ← same, whole, decide_eq_false negative]
    exact ⟨_, rfl⟩

theorem write_int_reads_back (value : Int) (rest : List Char)
    (short : (Decimal.numeral value.natAbs).length ≤ digitLimit) (closes : Closes rest) :
    number (writeInt value ++ rest) = .ok (.int value, rest) := by
  obtain ⟨start, read⟩ := write_int_number value rest closes
  have signed : (if decide (value < 0) = true then -(value.natAbs : Int) else value.natAbs) = value := by
    simp only [decide_eq_true_eq]
    split <;> omega
  rw [read, number_after_integer _ _ _ _ short closes, Decimal.value_of_numeral, signed]

theorem write_int_refused (value : Int) (rest : List Char) (long : digitLimit < (Decimal.numeral value.natAbs).length)
    (closes : Closes rest) : ∃ failure, number (writeInt value ++ rest) = .error failure := by
  obtain ⟨start, read⟩ := write_int_number value rest closes
  rw [read, number_after_whole _ _ _ _ closes, if_pos long]
  exact ⟨_, rfl⟩

theorem number_after_float (negative : Bool) (start whole after places afterPlaces rest : List Char)
    (exponent : Option Int) (part : fraction after = (places, afterPlaces))
    (scale : power afterPlaces = (exponent, rest)) (fractional : places ≠ [] ∨ exponent ≠ none) :
    numberAfter negative start whole after =
      .ok (.float (.ofDecimal negative ⟨Decimal.valueOf (whole ++ places), exponent.getD 0 - places.length⟩),
        rest) := by
  have notInteger : (places.isEmpty && exponent.isNone) = false := by
    rcases fractional with present | present
    · simp [present]
    · simp [Option.isSome_iff_ne_none.mpr present]
  simp [numberAfter, part, scale, notInteger]

theorem stops_at (c : Char) (rest : List Char) (other : isDigit c = false) : StopsDigits (c :: rest) := by
  intro d first
  cases first
  exact other

theorem positional_reads_back (negative : Bool) (start whole places rest : List Char) (nonempty : whole ≠ [])
    (wholeDigits : ∀ c ∈ whole, isDigit c = true) (canonical : whole = ['0'] ∨ whole.head? ≠ some '0')
    (present : places ≠ []) (placeDigits : ∀ c ∈ places, isDigit c = true) (closes : Closes rest) :
    numberFrom negative start (whole ++ '.' :: (places ++ rest)) =
      .ok (.float (.ofDecimal negative ⟨Decimal.valueOf (whole ++ places), -places.length⟩), rest) := by
  have stops := closes_stops_digits rest closes
  have noPower : power rest = (none, rest) := power_absent rest fun c first => by
    rcases closes c first with rfl | rfl | rfl <;> decide
  have part := fraction_present places rest present placeDigits stops
  rw [number_from_whole _ _ _ _ nonempty wholeDigits canonical (stops_at '.' _ rfl),
    number_after_float _ _ _ _ _ _ _ _ part noPower (.inl present)]
  simp

theorem scientific_reads_back (negative : Bool) (start : List Char) (c : Char) (tail rest : List Char) (leading : Int)
    (every : ∀ d ∈ c :: tail, isDigit d = true) (first : c ≠ '0') (closes : Closes rest) :
    numberFrom negative start
        (c :: ((if tail.isEmpty then [] else '.' :: tail) ++ 'e' :: (Decimal.exponent leading ++ rest))) =
      .ok (.float (.ofDecimal negative ⟨Decimal.valueOf (c :: tail), leading - tail.length⟩), rest) := by
  have scale := power_present leading rest (closes_stops_digits rest closes)
  generalize after : 'e' :: (Decimal.exponent leading ++ rest) = scaled at scale ⊢
  have stops : StopsDigits scaled := after ▸ stops_at 'e' _ rfl
  have part : fraction ((if tail.isEmpty then [] else '.' :: tail) ++ scaled) = (tail, scaled) := by
    cases tail with
    | nil =>
      rw [← after]
      rfl
    | cons d more =>
      have digits : ∀ e ∈ d :: more, isDigit e = true := fun e member => every e (List.mem_cons_of_mem _ member)
      exact fraction_present (d :: more) scaled (by simp) digits stops
  have wholeStops : StopsDigits ((if tail.isEmpty then [] else '.' :: tail) ++ scaled) := by
    split
    · exact stops
    · exact stops_at '.' _ rfl
  have single : ∀ d ∈ [c], isDigit d = true := fun d member => every d (by simp_all)
  have whole := number_from_whole negative start [c] _ (by simp) single (.inr (by simpa using first)) wholeStops
  rw [List.singleton_append] at whole
  rw [whole, number_after_float _ _ _ _ _ _ _ _ part scale (.inr (by simp))]
  rfl

/- The three positional forms of a decimal: without a fraction, with the point among its digits, and below one. -/

section Positional

variable (negative : Bool) (start tail rest : List Char) (c : Char) (number : Nat) (power : Int)

theorem whole_reads_back (every : ∀ d ∈ c :: tail, isDigit d = true) (first : c ≠ '0')
    (value : Decimal.valueOf (c :: tail) = number) (whole : 0 ≤ power) (closes : Closes rest) :
    numberFrom negative start (c :: tail ++ Decimal.zeros power.toNat ++ '.' :: (['0'] ++ rest)) =
      .ok (.float (.ofDecimal negative ⟨number, power⟩), rest) := by
  have wholeDigits : ∀ d ∈ c :: tail ++ Decimal.zeros power.toNat, isDigit d = true := by
    intro d member
    rcases List.mem_append.mp member with digit | zero
    · exact every d digit
    · exact zeros_digits _ d zero
  have read := positional_reads_back negative start (c :: tail ++ Decimal.zeros power.toNat) ['0'] rest (by simp)
    wholeDigits (.inr (by simpa using first)) (by simp) zero_digits closes
  have scaled : Decimal.valueOf (c :: tail ++ Decimal.zeros power.toNat ++ ['0']) =
      number * 10 ^ (power.toNat + 1) := by
    rw [Decimal.value_of_append, Decimal.value_of_append, Decimal.value_of_zeros, value]
    simp [Decimal.valueOf, Decimal.zeros, pow_succ, Nat.mul_assoc]
  -- the zeros that fill the number up count as powers of ten
  have shifted := Binary64.of_decimal_shift negative number (power.toNat + 1) (-1)
  have same : -1 + ((power.toNat + 1 : Nat) : Int) = power := by omega
  rw [same] at shifted
  rw [scaled, List.length_singleton, Int.natCast_one, shifted] at read
  exact read

theorem pointed_reads_back (every : ∀ d ∈ c :: tail, isDigit d = true) (first : c ≠ '0')
    (value : Decimal.valueOf (c :: tail) = number) (below : power < 0) (whole : Nat)
    (places : ((tail.drop whole).length : Int) = -power) (closes : Closes rest) :
    numberFrom negative start (c :: tail.take whole ++ '.' :: (tail.drop whole ++ rest)) =
      .ok (.float (.ofDecimal negative ⟨number, power⟩), rest) := by
  have present : tail.drop whole ≠ [] := by
    intro nothing
    simp only [nothing, List.length_nil] at places
    omega
  have wholeDigits : ∀ d ∈ c :: tail.take whole, isDigit d = true := fun d member =>
    every d (List.mem_cons.mpr ((List.mem_cons.mp member).imp_right List.mem_of_mem_take))
  have placeDigits : ∀ d ∈ tail.drop whole, isDigit d = true := fun d member =>
    every d (List.mem_cons_of_mem _ (List.mem_of_mem_drop member))
  have read := positional_reads_back negative start (c :: tail.take whole) (tail.drop whole) rest (by simp)
    wholeDigits (.inr (by simpa using first)) present placeDigits closes
  have joined : c :: tail.take whole ++ tail.drop whole = c :: tail := by simp
  rw [joined, value, places, Int.neg_neg] at read
  exact read

theorem small_reads_back (every : ∀ d ∈ c :: tail, isDigit d = true)
    (value : Decimal.valueOf (c :: tail) = number) (gap : Nat) (places : (gap + (tail.length + 1) : Int) = -power)
    (closes : Closes rest) :
    numberFrom negative start (['0'] ++ '.' :: ((Decimal.zeros gap ++ c :: tail) ++ rest)) =
      .ok (.float (.ofDecimal negative ⟨number, power⟩), rest) := by
  have placeDigits : ∀ d ∈ Decimal.zeros gap ++ c :: tail, isDigit d = true := by
    intro d member
    rcases List.mem_append.mp member with zero | digit
    · exact zeros_digits _ d zero
    · exact every d digit
  have read := positional_reads_back negative start ['0'] (Decimal.zeros gap ++ c :: tail) rest (by simp)
    zero_digits (.inl rfl) (by simp) placeDigits closes
  have zeros : Decimal.valueOf (['0'] ++ (Decimal.zeros gap ++ c :: tail)) = number := by
    rw [Decimal.value_of_append, Decimal.value_of_append, Decimal.value_of_zeros, value]
    simp [Decimal.valueOf]
  have length : ((Decimal.zeros gap ++ c :: tail).length : Int) = -power := by
    simp only [List.length_append, Decimal.zeros, List.length_replicate, List.length_cons]
    omega
  rw [zeros, length, Int.neg_neg] at read
  exact read

end Positional

theorem magnitude_reads_back (layout : Decimal.Layout) (decimal : Decimal) (negative : Bool) (start rest : List Char)
    (nonzero : decimal.digits ≠ 0) (closes : Closes rest) :
    numberFrom negative start (layout.magnitude decimal ++ rest) =
      .ok (.float (.ofDecimal negative decimal), rest) := by
  obtain ⟨number, power⟩ := decimal
  have head := Decimal.numeral_head number nonzero
  have every := Decimal.numeral_digits number
  have value := Decimal.value_of_numeral number
  have nonempty := Decimal.numeral_nonempty number
  simp only [Decimal.Layout.magnitude]
  generalize Decimal.numeral number = digits at *
  obtain ⟨c, tail, rfl⟩ := List.exists_cons_of_ne_nil nonempty
  have first : c ≠ '0' := by simpa using head
  have length : ((c :: tail).length : Int) = tail.length + 1 := by simp
  rw [length]
  split
  case isTrue scientific =>
    have read := scientific_reads_back negative start c tail rest (power + (tail.length + 1) - 1) every first closes
    have same : power + (tail.length + 1) - 1 - tail.length = power := by omega
    rw [value, same] at read
    simpa using read
  case isFalse positional =>
    split
    case isTrue whole =>
      simpa using whole_reads_back negative start tail rest c number power every first value whole closes
    case isFalse fractional =>
      split
      case isTrue inside =>
        obtain ⟨whole, count⟩ : ∃ whole, (power + (tail.length + 1) - 1 + 1).toNat = whole + 1 :=
          ⟨(power + (tail.length + 1) - 1).toNat, by omega⟩
        have places : ((tail.drop whole).length : Int) = -power := by
          rw [List.length_drop]
          omega
        rw [count]
        simpa using pointed_reads_back negative start tail rest c number power every first value (by omega) whole places
          closes
      case isFalse small =>
        generalize count : (-(power + (tail.length + 1) - 1) - 1).toNat = gap
        have places : (gap + (tail.length + 1) : Int) = -power := by omega
        simpa using small_reads_back negative start tail rest c number power every value gap places closes

theorem unsigned_reads_back (layout : Decimal.Layout) (negative : Bool) (rank : Fin Binary64.ranks)
    (start rest : List Char) (closes : Closes rest) :
    numberFrom negative start (layout.write false rank ++ rest) = .ok (.float (.finite negative rank), rest) := by
  simp only [Decimal.Layout.write, Bool.false_eq_true, if_false]
  split
  case isTrue zero =>
    have read := positional_reads_back negative start ['0'] ['0'] rest (by simp) zero_digits (.inl rfl) (by simp)
      zero_digits closes
    have digits : Decimal.valueOf (['0'] ++ ['0']) = 0 := rfl
    rw [digits, Binary64.of_decimal_zero negative rank zero] at read
    exact read
  case isFalse nonzero =>
    have back := Binary64.shortest_reads_back negative rank
    have digits : (Decimal.shortest rank).digits ≠ 0 := fun nothing =>
      nonzero (Binary64.zero_of_digits negative rank _ nothing back)
    rw [magnitude_reads_back layout _ negative start rest digits closes, back]

theorem number_from_head (negative : Bool) (start text : List Char) (read : Json × List Char)
    (accepted : numberFrom negative start text = .ok read) : ∃ c tail, text = c :: tail ∧ isDigit c = true := by
  cases text with
  | nil => cases accepted
  | cons c tail =>
    refine ⟨c, tail, rfl, ?_⟩
    by_contra other
    have nothing : (c :: tail).span isDigit = ([], c :: tail) :=
      span_digits [] (c :: tail) (by simp) (stops_at c tail (by simpa using other))
    have notZero : c ≠ '0' := by
      rintro rfl
      exact other rfl
    unfold numberFrom at accepted
    split at accepted
    rename_i whole left taken
    have parts : whole = [] := by
      split at taken
      · rename_i same
        exact absurd (List.cons.inj same).1 notZero
      · rw [nothing] at taken
        exact (Prod.mk.inj taken).1.symm
    rw [parts] at accepted
    cases accepted

theorem write_float_reads_back (style : Style) (negative : Bool) (rank : Fin Binary64.ranks) (rest : List Char)
    (closes : Closes rest) :
    number (writeFloat style (.finite negative rank) ++ rest) = .ok (.float (.finite negative rank), rest) := by
  have read := unsigned_reads_back style.layout negative rank
  cases negative with
  | true =>
    have text : style.layout.write true rank = '-' :: style.layout.write false rank := by simp [Decimal.Layout.write]
    rw [writeFloat, text, List.cons_append, number_negative, read _ _ closes]
  | false =>
    obtain ⟨c, tail, same, digit⟩ := number_from_head _ _ _ _ (read [] rest closes)
    rw [writeFloat, same, number_positive c tail digit, ← same, read _ _ closes]

end Json
end Gatehouse
