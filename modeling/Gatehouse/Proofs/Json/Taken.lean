import Gatehouse.Proofs.Json.RoundTrip

/- What the reader takes of a text for a number, a word, a string and the blanks before a character. The part that it
   took is read again alike with anything behind that could not have been taken as well. -/
namespace Gatehouse.Json

/- Numbers are the only values whose end depends on what follows. -/

def Ends (rest : List Char) : Prop := ∀ c ∈ rest.head?, isDigit c = false ∧ c ≠ '.' ∧ c ≠ 'e' ∧ c ≠ 'E'

theorem ends_nothing : Ends [] := by simp [Ends]

theorem ends_at (c : Char) (rest : List Char) (digit : isDigit c = false) (point : c ≠ '.') (lower : c ≠ 'e')
    (upper : c ≠ 'E') : Ends (c :: rest) := by
  intro d first
  cases first
  exact ⟨digit, point, lower, upper⟩

theorem closes_ends (rest : List Char) (closes : Closes rest) : Ends rest := by
  intro c first
  rcases closes c first with rfl | rfl | rfl <;> decide

theorem ends_stops (rest : List Char) (ends : Ends rest) : StopsDigits rest := fun c first => (ends c first).1

theorem fraction_taken (text places rest : List Char) (read : fraction text = (places, rest)) :
    (places = [] ∧ text = rest) ∨
      (places ≠ [] ∧ text = '.' :: (places ++ rest) ∧ ∀ c ∈ places, isDigit c = true) := by
  cases text with
  | nil =>
    cases read
    exact .inl ⟨rfl, rfl⟩
  | cons c tail =>
    by_cases point : c = '.'
    · subst point
      by_cases nothing : tail.takeWhile isDigit = []
      · simp only [fraction, nothing, List.isEmpty_nil, if_true] at read
        cases read
        exact .inl ⟨rfl, rfl⟩
      · have some : (tail.takeWhile isDigit).isEmpty = false := by simpa using nothing
        simp only [fraction, some, Bool.false_eq_true, if_false, List.span_eq_takeWhile_dropWhile] at read
        cases read
        refine .inr ⟨nothing, by rw [List.takeWhile_append_dropWhile], ?_⟩
        intro d member
        exact List.all_eq_true.mp List.all_takeWhile d member
    · rw [fraction_absent (c :: tail) fun d first => by cases first; exact point] at read
      cases read
      exact .inl ⟨rfl, rfl⟩

-- The exponent after its letter and its sign; without digits there is none, and all of the text is left.
def powerAfter (text : List Char) (negative : Bool) (body : List Char) : Option Int × List Char :=
  if (body.takeWhile isDigit).isEmpty then (none, text)
  else
    let size : Int := Decimal.valueOf (body.takeWhile isDigit)
    (some (if negative then -size else size), body.dropWhile isDigit)

theorem power_negative (c : Char) (body : List Char) (letter : c = 'e' ∨ c = 'E') :
    power (c :: '-' :: body) = powerAfter (c :: '-' :: body) true body := by
  obtain rfl | rfl := letter <;> simp [power, powerAfter, List.span_eq_takeWhile_dropWhile]

theorem power_positive (c : Char) (body : List Char) (letter : c = 'e' ∨ c = 'E') :
    power (c :: '+' :: body) = powerAfter (c :: '+' :: body) false body := by
  obtain rfl | rfl := letter <;> simp [power, powerAfter, List.span_eq_takeWhile_dropWhile]

theorem power_unsigned (c : Char) (body : List Char) (letter : c = 'e' ∨ c = 'E')
    (bare : ∀ d ∈ body.head?, d ≠ '-' ∧ d ≠ '+') : power (c :: body) = powerAfter (c :: body) false body := by
  have marked : (c == 'e' || c == 'E') = true := by simpa using letter
  cases body with
  | nil => simp [power, powerAfter]
  | cons d tail =>
    obtain ⟨minus, plus⟩ := bare d rfl
    unfold power
    split
    · rename_i same
      exact absurd (List.cons.inj (List.cons.inj same).2).1 minus
    · rename_i same
      exact absurd (List.cons.inj (List.cons.inj same).2).1 plus
    · rename_i same
      obtain ⟨rfl, rfl⟩ := List.cons.inj same
      simp [powerAfter, marked, List.span_eq_takeWhile_dropWhile]
    · rename_i same
      cases same

theorem power_after_taken (text body rest : List Char) (negative : Bool) (exponent : Option Int)
    (read : powerAfter text negative body = (exponent, rest)) : (exponent = none ∧ text = rest) ∨
      ∃ digits, digits ≠ [] ∧ (∀ c ∈ digits, isDigit c = true) ∧ exponent ≠ none ∧ body = digits ++ rest ∧
        ∀ other more, StopsDigits more → powerAfter other negative (digits ++ more) = (exponent, more) := by
  by_cases nothing : body.takeWhile isDigit = []
  · simp only [powerAfter, nothing, List.isEmpty_nil, if_true] at read
    cases read
    exact .inl ⟨rfl, rfl⟩
  · have present : (body.takeWhile isDigit).isEmpty = false := by simpa using nothing
    have every : ∀ c ∈ body.takeWhile isDigit, isDigit c = true := fun c member =>
      List.all_eq_true.mp List.all_takeWhile c member
    simp only [powerAfter, present, Bool.false_eq_true, if_false] at read
    cases read
    refine .inr ⟨body.takeWhile isDigit, nothing, every, by simp, by rw [List.takeWhile_append_dropWhile], ?_⟩
    intro other more stops
    have spanned := span_digits _ more every stops
    rw [List.span_eq_takeWhile_dropWhile] at spanned
    obtain ⟨taken, left⟩ := Prod.mk.inj spanned
    simp only [powerAfter, taken, left, present, Bool.false_eq_true, if_false]

theorem power_taken (text rest : List Char) (exponent : Option Int) (read : power text = (exponent, rest)) :
    (exponent = none ∧ text = rest) ∨ ∃ c tail, (c = 'e' ∨ c = 'E') ∧ exponent ≠ none ∧ text = c :: (tail ++ rest) ∧
      ∀ more, StopsDigits more → power (c :: (tail ++ more)) = (exponent, more) := by
  cases text with
  | nil =>
    cases read
    exact .inl ⟨rfl, rfl⟩
  | cons c body =>
    by_cases letter : c = 'e' ∨ c = 'E'
    · by_cases minus : body.head? = some '-'
      · obtain ⟨tail, rfl⟩ : ∃ tail, body = '-' :: tail := List.head?_eq_some_iff.mp minus
        rw [power_negative c tail letter] at read
        obtain absent | ⟨digits, _, _, present, rfl, again⟩ := power_after_taken _ _ _ _ _ read
        · exact .inl absent
        · refine .inr ⟨c, '-' :: digits, letter, present, rfl, ?_⟩
          intro more stops
          rw [List.cons_append, power_negative c _ letter, again _ more stops]
      · by_cases plus : body.head? = some '+'
        · obtain ⟨tail, rfl⟩ : ∃ tail, body = '+' :: tail := List.head?_eq_some_iff.mp plus
          rw [power_positive c tail letter] at read
          obtain absent | ⟨digits, _, _, present, rfl, again⟩ := power_after_taken _ _ _ _ _ read
          · exact .inl absent
          · refine .inr ⟨c, '+' :: digits, letter, present, rfl, ?_⟩
            intro more stops
            rw [List.cons_append, power_positive c _ letter, again _ more stops]
        · have bare : ∀ d ∈ body.head?, d ≠ '-' ∧ d ≠ '+' := by
            intro d first
            exact ⟨fun same => minus (same ▸ first), fun same => plus (same ▸ first)⟩
          rw [power_unsigned c body letter bare] at read
          obtain absent | ⟨digits, nonempty, every, present, rfl, again⟩ := power_after_taken _ _ _ _ _ read
          · exact .inl absent
          · refine .inr ⟨c, digits, letter, present, rfl, ?_⟩
            intro more stops
            rw [power_unsigned c _ letter, again _ more stops]
            -- a digit is no sign
            intro d first
            obtain ⟨e, tail, rfl⟩ := List.exists_cons_of_ne_nil nonempty
            cases first
            have digit := every _ List.mem_cons_self
            exact ⟨(digit_other _ '-' digit rfl).symm, (digit_other _ '+' digit rfl).symm⟩
    · rw [power_absent (c :: body)] at read
      · cases read
        exact .inl ⟨rfl, rfl⟩
      · intro d first
        cases first
        exact not_or.mp letter

theorem number_after_taken (negative : Bool) (start whole after rest : List Char) (json : Json)
    (accepted : numberAfter negative start whole after = .ok (json, rest)) : ∃ own, after = own ++ rest ∧
      (∀ more, Ends more → StopsDigits (own ++ more)) ∧
      ∀ other more, Ends more → numberAfter negative other whole (own ++ more) = .ok (json, more) := by
  obtain ⟨⟨places, left⟩, part⟩ : ∃ pair, fraction after = pair := ⟨_, rfl⟩
  obtain ⟨⟨exponent, last⟩, scale⟩ : ∃ pair, power left = pair := ⟨_, rfl⟩
  simp only [numberAfter, part, scale] at accepted
  obtain rfl : last = rest := by
    split at accepted
    · split at accepted
      · cases accepted
      · exact (Prod.mk.inj (Except.ok.inj accepted)).2
    · exact (Prod.mk.inj (Except.ok.inj accepted)).2
  -- the part of the exponent, with what is read from it whatever follows
  obtain ⟨scaled, leftText, scaledStops, scaledPoint, scaleAgain⟩ : ∃ scaled, left = scaled ++ last ∧
      (∀ more, Ends more → StopsDigits (scaled ++ more)) ∧ (∀ more, Ends more → ∀ c ∈ (scaled ++ more).head?, c ≠ '.') ∧
      ∀ more, Ends more → power (scaled ++ more) = (exponent, more) := by
    obtain ⟨rfl, rfl⟩ | ⟨c, tail, letter, _, rfl, again⟩ := power_taken _ _ _ scale
    · refine ⟨[], rfl, fun more ends => ends_stops more ends, fun more ends c first => (ends c first).2.1, ?_⟩
      intro more ends
      exact power_absent more fun c first => (ends c first).2.2
    · refine ⟨c :: tail, rfl, ?_, ?_, fun more ends => again more (ends_stops more ends)⟩
      · intro more _
        obtain rfl | rfl := letter <;> exact stops_at _ _ rfl
      · intro more _ d first
        cases first
        obtain rfl | rfl := letter <;> decide
  obtain ⟨own, afterText, ownStops, partAgain⟩ : ∃ own, after = own ++ left ∧
      (∀ more, Ends more → StopsDigits (own ++ (scaled ++ more))) ∧
      ∀ more, Ends more → fraction (own ++ (scaled ++ more)) = (places, scaled ++ more) := by
    obtain ⟨rfl, rfl⟩ | ⟨present, rfl, every⟩ := fraction_taken _ _ _ part
    · exact ⟨[], rfl, scaledStops, fun more ends => fraction_absent _ (scaledPoint more ends)⟩
    · refine ⟨'.' :: places, rfl, fun more _ => stops_at '.' _ rfl, fun more ends => ?_⟩
      exact fraction_present places _ present every (scaledStops more ends)
  refine ⟨own ++ scaled, by rw [afterText, leftText, List.append_assoc], ?_, ?_⟩
  · intro more ends
    rw [List.append_assoc]
    exact ownStops more ends
  · intro other more ends
    rw [List.append_assoc]
    simp only [numberAfter, partAgain more ends, scaleAgain more ends]
    split at accepted
    · rename_i whole
      rw [if_pos whole]
      split at accepted
      · cases accepted
      · rename_i short
        cases accepted
        rw [if_neg short]
    · rename_i fractional
      cases accepted
      rw [if_neg fractional]

theorem number_from_taken (negative : Bool) (start text rest : List Char) (json : Json)
    (accepted : numberFrom negative start text = .ok (json, rest)) : ∃ c tail, text = c :: tail ++ rest ∧
      isDigit c = true ∧
      ∀ other more, Ends more → numberFrom negative other (c :: tail ++ more) = .ok (json, more) := by
  obtain ⟨c, body, rfl, digit⟩ := number_from_head _ _ _ _ accepted
  -- the digits before the point: a zero alone, or all that stand there
  obtain ⟨digits, after, rfl, every, canonical, read⟩ : ∃ digits after, body = digits ++ after ∧
      (∀ d ∈ c :: digits, isDigit d = true) ∧ (c :: digits = ['0'] ∨ (c :: digits).head? ≠ some '0') ∧
      numberFrom negative start (c :: digits ++ after) = numberAfter negative start (c :: digits) after := by
    by_cases zero : c = '0'
    · subst zero
      exact ⟨[], body, rfl, zero_digits, .inl rfl, rfl⟩
    · have every : ∀ d ∈ c :: body.takeWhile isDigit, isDigit d = true := by
        intro d member
        rcases List.mem_cons.mp member with rfl | later
        · exact digit
        · exact List.all_eq_true.mp List.all_takeWhile d later
      have canonical : (c :: body.takeWhile isDigit).head? ≠ some '0' := by simpa using zero
      refine ⟨body.takeWhile isDigit, body.dropWhile isDigit, by rw [List.takeWhile_append_dropWhile], every,
        .inr canonical, ?_⟩
      exact number_from_whole _ _ _ _ (List.cons_ne_nil _ _) every (.inr canonical) (drop_while_stops body)
  rw [← List.cons_append, read] at accepted
  obtain ⟨own, rfl, stops, again⟩ := number_after_taken _ _ _ _ _ _ accepted
  refine ⟨c, digits ++ own, by simp, digit, fun other more ends => ?_⟩
  have whole := number_from_whole negative other (c :: digits) (own ++ more) (List.cons_ne_nil _ _) every canonical
    (stops more ends)
  rw [again other more ends] at whole
  rw [List.cons_append, List.append_assoc, ← List.cons_append]
  exact whole

theorem number_taken (text rest : List Char) (json : Json) (accepted : number text = .ok (json, rest)) :
    ∃ own, text = own ++ rest ∧ ∀ more, Ends more → number (own ++ more) = .ok (json, more) := by
  unfold number at accepted
  split at accepted
  · obtain ⟨c, tail, rfl, _, again⟩ := number_from_taken _ _ _ _ _ accepted
    exact ⟨'-' :: c :: tail, rfl, fun more ends => again _ more ends⟩
  · obtain ⟨c, tail, rfl, digit, again⟩ := number_from_taken _ _ _ _ _ accepted
    refine ⟨c :: tail, rfl, fun more ends => ?_⟩
    rw [List.cons_append, number_positive c _ digit]
    exact again _ more ends

theorem word_read : ∀ entry ∈ words, ∀ rest, scalar (entry.1 ++ rest) = .ok (entry.2, rest) := by
  rw [words_listed]
  intro entry listed rest
  simp only [List.mem_cons, List.not_mem_nil, or_false] at listed
  rcases listed with rfl | rfl | rfl | rfl | rfl | rfl <;> simp [scalar, words_listed, word?]

theorem scalar_taken (text rest : List Char) (json : Json) (accepted : scalar text = .ok (json, rest)) :
    ∃ own, text = own ++ rest ∧ ∀ more, Ends more → scalar (own ++ more) = .ok (json, more) := by
  unfold scalar at accepted
  split at accepted
  · rename_i found searched
    obtain ⟨entry, listed, picked⟩ := List.exists_of_findSome?_eq_some searched
    obtain ⟨after, begun, same⟩ := Option.map_eq_some_iff.mp picked
    cases accepted
    cases same
    exact ⟨entry.1, word_begins _ _ _ begun, fun more _ => word_read entry listed more⟩
  · obtain ⟨own, rfl, again⟩ := number_taken text rest json accepted
    exact ⟨own, rfl, fun more ends => scalar_of_number _ _ (again more ends)⟩

/- A string ends with its quote, so it is read again with anything behind. -/

theorem unit_taken (text rest : List Char) (unit : Nat) (read : unit? text = some (unit, rest)) :
    ∃ own, text = own ++ rest ∧ ∀ more, unit? (own ++ more) = some (unit, more) := by
  unfold unit? at read
  split at read
  · rename_i a b c d tail
    split at read
    · rename_i first second third fourth hexA hexB hexC hexD
      cases read
      exact ⟨[a, b, c, d], rfl, fun more => by simp [unit?, hexA, hexB, hexC, hexD]⟩
    · cases read
  · cases read

theorem unicode_escape_taken (mark text rest : List Char) (c : Char)
    (read : unicodeEscape mark text = .ok (c, rest)) : ∃ own, text = own ++ rest ∧
      ∀ other more, more ≠ [] → unicodeEscape other (own ++ more) = .ok (c, more) := by
  unfold unicodeEscape at read
  split at read
  · cases read
  · cases read
  · rename_i unit left _ present
    obtain ⟨own, rfl, again⟩ := unit_taken _ _ _ present
    split at read
    · rename_i high
      split at read
      · rename_i second
        split at read
        · cases read
        · cases read
        · rename_i low last _ following
          obtain ⟨pair, rfl, pairAgain⟩ := unit_taken _ _ _ following
          split at read
          · rename_i lowUnit
            obtain ⟨rfl, rfl⟩ := Prod.mk.inj (Except.ok.inj read)
            refine ⟨own ++ '\\' :: 'u' :: pair, by simp, fun other more some => ?_⟩
            obtain ⟨d, tail, rfl⟩ := List.exists_cons_of_ne_nil some
            have text : own ++ '\\' :: 'u' :: pair ++ d :: tail = own ++ ('\\' :: 'u' :: (pair ++ d :: tail)) := by simp
            rw [text]
            simp [unicodeEscape, again, pairAgain, high, lowUnit]
          · cases read
      · cases read
    · rename_i single
      split at read
      · cases read
      · rename_i plain
        cases read
        refine ⟨own, rfl, fun other more some => ?_⟩
        obtain ⟨d, tail, rfl⟩ := List.exists_cons_of_ne_nil some
        simp [unicodeEscape, again, single, plain]

theorem escaped_character_read (opening : List Char) (fuel : Nat) (read : List Char) (c plain : Char)
    (rest : List Char) (other : c ≠ 'u') (short : plainEscape? c = some plain) :
    stringFrom opening (fuel + 1) read ('\\' :: c :: rest) = stringFrom opening fuel (plain :: read) rest := by
  conv =>
    lhs
    unfold stringFrom
  dsimp only
  split <;> grind

-- A string is at its closing quote, or goes on behind a character that stands as it is or is escaped.
theorem character_taken (opening : List Char) (fuel : Nat) (before text rest : List Char) (found : String)
    (read : stringFrom opening (fuel + 1) before text = .ok (found, rest)) :
    (text = '"' :: rest ∧ String.ofList before.reverse = found) ∨ ∃ piece c after, piece ≠ [] ∧ text = piece ++ after ∧
      stringFrom opening fuel (c :: before) after = .ok (found, rest) ∧ ∀ other room more, more ≠ [] →
        stringFrom other (room + 1) before (piece ++ more) = stringFrom other room (c :: before) more := by
  unfold stringFrom at read
  split at read
  · cases read
  · cases read
    exact .inl ⟨rfl, rfl⟩
  · cases read
  · obtain ⟨⟨c, after⟩, escaped, next⟩ := (bind_eq_ok _ _ _).mp read
    obtain ⟨own, rfl, again⟩ := unicode_escape_taken _ _ _ _ escaped
    refine .inr ⟨'\\' :: 'u' :: own, c, after, by simp, by simp, next, fun other room more some => ?_⟩
    simp only [List.cons_append, stringFrom, again _ more some]
    rfl
  · rename_i c after letter
    split at read
    · rename_i plain short
      refine .inr ⟨['\\', c], plain, after, by simp, rfl, read, fun other room more _ => ?_⟩
      exact escaped_character_read other room before c plain more letter short
    · cases read
  · rename_i c after quote last _ escaped
    have backslash : c ≠ '\\' := by
      intro same
      cases after with
      | nil => exact last same rfl
      | cons d tail => exact escaped d tail same rfl
    split at read
    · cases read
    · rename_i printable
      refine .inr ⟨[c], c, after, by simp, rfl, read, fun other room more _ => ?_⟩
      exact plain_character_read other room before c more quote backslash printable

theorem string_from_taken (opening : List Char) (fuel : Nat) (before text rest : List Char) (found : String)
    (read : stringFrom opening fuel before text = .ok (found, rest)) : ∃ own, own ≠ [] ∧ text = own ++ rest ∧
      ∀ other room more, own.length ≤ room → stringFrom other room before (own ++ more) = .ok (found, more) := by
  induction fuel generalizing before text with
  | zero => cases read
  | succ fuel ih =>
    obtain ⟨rfl, rfl⟩ | ⟨piece, c, after, filled, rfl, next, step⟩ := character_taken _ _ _ _ _ _ read
    · refine ⟨['"'], by simp, rfl, fun other room more enough => ?_⟩
      obtain ⟨room, rfl⟩ := Nat.exists_eq_succ_of_ne_zero (Nat.ne_of_gt enough)
      simp [stringFrom]
    · obtain ⟨own, nonempty, rfl, again⟩ := ih _ _ next
      refine ⟨piece ++ own, by simp [filled], by simp, fun other room more enough => ?_⟩
      have some := List.length_pos_iff.mpr filled
      rw [List.length_append] at enough
      obtain ⟨room, rfl⟩ : ∃ less, room = less + 1 := ⟨room - 1, by omega⟩
      rw [List.append_assoc, step other room (own ++ more) (by simp [nonempty])]
      exact again other room more (by omega)

theorem string_taken (opening opened rest : List Char) (found : String)
    (read : stringAt opening opened = .ok (found, rest)) : ∃ own, opened = own ++ rest ∧
      ∀ other more, stringAt other (own ++ more) = .ok (found, more) := by
  obtain ⟨own, _, rfl, again⟩ := string_from_taken _ _ _ _ _ _ read
  refine ⟨own, rfl, fun other more => again other _ more ?_⟩
  rw [List.length_append]
  omega

/- Blanks stand before a character that is none. -/

theorem blanks_taken (text tail : List Char) (c : Char) (skipped : skipSpace text = c :: tail) :
    ∃ blanks, text = blanks ++ c :: tail ∧ (∀ more, skipSpace (blanks ++ c :: more) = c :: more) ∧
      ∀ more, Ends (c :: more) → Ends (blanks ++ c :: more) := by
  induction text with
  | nil => cases skipped
  | cons d rest ih =>
    by_cases blank : isSpace d = true
    · have gone (other : List Char) : skipSpace (d :: other) = skipSpace other := by simp [skipSpace, blank]
      rw [gone] at skipped
      obtain ⟨blanks, rfl, again, _⟩ := ih skipped
      refine ⟨d :: blanks, rfl, fun more => by rw [List.cons_append, gone, again], fun more _ => ?_⟩
      simp only [isSpace, Bool.or_eq_true, beq_iff_eq] at blank
      rcases blank with ((rfl | rfl) | rfl) | rfl <;> exact ends_at _ _ rfl (by decide) (by decide) (by decide)
    · have visible : isSpace d = false := by simpa using blank
      rw [skip_space_stays d rest visible] at skipped
      cases skipped
      exact ⟨[], rfl, fun more => skip_space_stays c more visible, fun more ends => ends⟩

end Gatehouse.Json
