import Gatehouse.Json.Reader
import Gatehouse.Json.Writer
import Mathlib.Tactic.SplitIfs

/- Strings in JSON text read back as they were written, in every style. A character outside the basic plane that is
   not written as itself is written as two units, which the reader joins again. -/
namespace Gatehouse.Json

theorem unit_reads_hex (unit : Nat) (rest : List Char) (small : unit < 65536) :
    unit? (Text.hex 4 unit ++ rest) = some (unit, rest) := by
  have digit (value : Nat) : Text.hexValue? (Text.hexDigit (value % 16)) = some (value % 16) :=
    Text.hexValue_hexDigit ⟨value % 16, Nat.mod_lt _ (by decide)⟩
  simp only [Text.hex, List.nil_append, List.cons_append, unit?, digit]
  congr 2
  omega

theorem char_unit (c : Char) (single : c.toNat < 0x10000) : isHigh c.toNat = false ∧ isLow c.toNat = false := by
  have valid : c.toNat < 0xd800 ∨ (0xdfff < c.toNat ∧ c.toNat < 0x110000) := c.valid
  simp only [isHigh, isLow, Bool.and_eq_false_iff, decide_eq_false_iff_not]
  omega

theorem unicode_escape_single (mark rest : List Char) (c : Char) (single : c.toNat < 0x10000) (more : rest ≠ []) :
    unicodeEscape mark (Text.hex 4 c.toNat ++ rest) = .ok (c, rest) := by
  obtain ⟨d, tail, rfl⟩ := List.exists_cons_of_ne_nil more
  obtain ⟨notHigh, notLow⟩ := char_unit c single
  simp [unicodeEscape, unit_reads_hex _ _ single, notHigh, notLow, Char.ofNat_toNat]

theorem unicode_escape_pair (mark rest : List Char) (high low : Nat) (isHighUnit : isHigh high = true)
    (isLowUnit : isLow low = true) (more : rest ≠ []) :
    unicodeEscape mark (Text.hex 4 high ++ '\\' :: 'u' :: (Text.hex 4 low ++ rest)) =
      .ok (joinUnits high low, rest) := by
  obtain ⟨d, tail, rfl⟩ := List.exists_cons_of_ne_nil more
  have highBound : high < 65536 := by
    simp only [isHigh, Bool.and_eq_true, decide_eq_true_eq] at isHighUnit
    omega
  have lowBound : low < 65536 := by
    simp only [isLow, Bool.and_eq_true, decide_eq_true_eq] at isLowUnit
    omega
  simp [unicodeEscape, unit_reads_hex _ _ highBound, unit_reads_hex _ _ lowBound, isHighUnit, isLowUnit]

theorem char_pair (c : Char) (double : ¬ c.toNat < 0x10000) :
    ∃ high low, units16 c.toNat = [high, low] ∧ isHigh high = true ∧ isLow low = true ∧ joinUnits high low = c := by
  have valid : c.toNat < 0x110000 := by
    have either : c.toNat < 0xd800 ∨ (0xdfff < c.toNat ∧ c.toNat < 0x110000) := c.valid
    omega
  obtain ⟨high, highEq⟩ : ∃ high, 0xd800 + (c.toNat - 0x10000) / 0x400 = high := ⟨_, rfl⟩
  obtain ⟨low, lowEq⟩ : ∃ low, 0xdc00 + (c.toNat - 0x10000) % 0x400 = low := ⟨_, rfl⟩
  have code : 0x10000 + (high - 0xd800) * 0x400 + (low - 0xdc00) = c.toNat := by omega
  refine ⟨high, low, ?_, ?_, ?_, ?_⟩
  · rw [units16, if_neg double, highEq, lowEq]
  · simp only [isHigh, Bool.and_eq_true, decide_eq_true_eq]
    omega
  · simp only [isLow, Bool.and_eq_true, decide_eq_true_eq]
    omega
  · rw [joinUnits, code, Char.ofNat_toNat]

theorem escaped_units_read (opening : List Char) (fuel : Nat) (read : List Char) (c : Char) (rest : List Char)
    (more : rest ≠ []) : stringFrom opening (fuel + 1) read ((units16 c.toNat).flatMap escapeUnit ++ rest) =
      stringFrom opening fuel (c :: read) rest := by
  by_cases single : c.toNat < 0x10000
  · rw [units16, if_pos single]
    simp only [List.flatMap_cons, List.flatMap_nil, escapeUnit, List.append_nil, List.cons_append, stringFrom,
      unicode_escape_single _ rest c single more]
    rfl
  · obtain ⟨high, low, units, isHighUnit, isLowUnit, joined⟩ := char_pair c single
    rw [units]
    simp only [List.flatMap_cons, List.flatMap_nil, escapeUnit, List.append_nil, List.cons_append, List.append_assoc,
      stringFrom, unicode_escape_pair _ rest high low isHighUnit isLowUnit more, joined]
    rfl

theorem plain_character_read (opening : List Char) (fuel : Nat) (read : List Char) (c : Char) (rest : List Char)
    (quote : c ≠ '"') (backslash : c ≠ '\\') (printable : ¬ c.toNat < 32) :
    stringFrom opening (fuel + 1) read (c :: rest) = stringFrom opening fuel (c :: read) rest := by
  conv =>
    lhs
    unfold stringFrom
  dsimp only
  split <;> simp_all [Nat.not_lt.mpr]

theorem escape_reads_back (style : Style) (opening : List Char) (fuel : Nat) (read : List Char) (c : Char)
    (rest : List Char) (more : rest ≠ []) :
    stringFrom opening (fuel + 1) read (escape style c ++ rest) = stringFrom opening fuel (c :: read) rest := by
  have coded (code : Nat) (same : (c.toNat == code) = true) : c = Char.ofNat code := by
    rw [← eq_of_beq same, Char.ofNat_toNat]
  unfold escape
  split_ifs with quote backslash newline carriage tab backspace feed control wide
  · rw [eq_of_beq quote]
    rfl
  · rw [eq_of_beq backslash]
    rfl
  · rw [eq_of_beq newline]
    rfl
  · rw [eq_of_beq carriage]
    rfl
  · rw [eq_of_beq tab]
    rfl
  · rw [coded 8 backspace]
    rfl
  · rw [coded 12 feed]
    rfl
  · have single : (units16 c.toNat).flatMap escapeUnit = escapeUnit c.toNat := by
      rw [units16, if_pos (by omega)]
      simp
    rw [← single]
    exact escaped_units_read opening fuel read c rest more
  · exact escaped_units_read opening fuel read c rest more
  · exact plain_character_read opening fuel read c rest (by simpa using quote) (by simpa using backslash) control

theorem characters_read_back (style : Style) (opening : List Char) (fuel : Nat) (text read rest : List Char)
    (enough : text.length < fuel) :
    stringFrom opening fuel read (text.flatMap (escape style) ++ '"' :: rest) =
      .ok (String.ofList (read.reverse ++ text), rest) := by
  induction text generalizing fuel read with
  | nil =>
    obtain ⟨fuel, rfl⟩ := Nat.exists_eq_succ_of_ne_zero (Nat.ne_of_gt enough)
    simp [stringFrom]
  | cons c tail ih =>
    obtain ⟨fuel, rfl⟩ := Nat.exists_eq_succ_of_ne_zero (Nat.ne_of_gt (Nat.zero_lt_of_lt enough))
    rw [List.flatMap_cons, List.append_assoc, escape_reads_back style opening fuel read c _ (by simp),
      ih fuel (c :: read) (by simpa using enough)]
    simp

theorem escape_nonempty (style : Style) (c : Char) : escape style c ≠ [] := by
  unfold escape
  split_ifs <;> simp [escapeUnit, units16]
  split <;> simp

theorem characters_length (style : Style) (text : List Char) :
    text.length ≤ (text.flatMap (escape style)).length := by
  induction text with
  | nil => simp
  | cons c tail ih =>
    have grown := List.length_pos_iff.mpr (escape_nonempty style c)
    simp only [List.flatMap_cons, List.length_append, List.length_cons]
    omega

theorem write_string_reads_back (style : Style) (text : String) (rest : List Char) :
    ∃ opened, writeString style text ++ rest = '"' :: opened ∧
      ∀ opening, stringAt opening opened = .ok (text, rest) := by
  refine ⟨text.toList.flatMap (escape style) ++ '"' :: rest, by simp [writeString], fun opening => ?_⟩
  have long := characters_length style text.toList
  rw [stringAt, characters_read_back style opening _ _ _ _ (by rw [List.length_append, List.length_cons]; omega)]
  simp

-- A string in a text ends where it ends, whatever follows.
theorem write_string_apart (style : Style) (left right : String) (leftRest rightRest : List Char)
    (same : writeString style left ++ leftRest = writeString style right ++ rightRest) :
    left = right ∧ leftRest = rightRest := by
  obtain ⟨leftOpened, leftText, leftRead⟩ := write_string_reads_back style left leftRest
  obtain ⟨rightOpened, rightText, rightRead⟩ := write_string_reads_back style right rightRest
  rw [leftText, rightText] at same
  have opened : leftOpened = rightOpened := (List.cons.inj same).2
  have read := leftRead []
  rw [opened, rightRead []] at read
  cases read
  exact ⟨rfl, rfl⟩

end Gatehouse.Json
