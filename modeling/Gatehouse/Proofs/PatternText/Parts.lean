import Gatehouse.Proofs.PatternText.Carried

/- What stands below the alternatives of a pattern, read with a closing parenthesis after the text: names, escapes,
   sets, quantifiers, flags, and what begins a group. -/
namespace Gatehouse.PatternText

open Pattern

section

variable {α β : Type} {raises runs : Prop} {source outer : Source}

/- Runs of characters, and names -/

-- A run is bounded by a number of characters, or ends before what is left does.
theorem take_while_walks (test : Char → Bool) (close : test ')' = false) (count more : Nat)
    (enough : count = more ∨ source.ahead < count ∧ source.ahead < more) :
    Walks raises runs source outer (takeWhile test count) (takeWhile test more) := by
  induction count generalizing source outer more with
  | zero =>
    obtain rfl : 0 = more := by omega
    exact walks_pure []
  | succ count ih =>
    obtain ⟨more, rfl⟩ : ∃ less, more = less + 1 := Nat.exists_eq_succ_of_ne_zero (by omega)
    rw [takeWhile, takeWhile]
    refine walks_peek _ _ (fun token here => ?_) ?_
    · cases token with
      | plain c =>
        refine walks_ite _ _ _ _ _ (fun _ => ?_) fun _ => walks_pure []
        refine walks_taken _ here _ _ fun after _ less => ?_
        exact walks_bind _ _ _ _ (ih more (by omega)) fun rest _ _ _ => walks_pure (c :: rest)
      | escaped c => exact walks_pure []
    · show Walks raises runs source outer (pure []) (if test ')' = true then _ else pure [])
      rw [if_neg (by simp [close])]
      exact walks_pure []

theorem take_all_walks (test : Char → Bool) (close : test ')' = false) :
    Walks raises runs source outer (do takeWhile test (← remaining)) (do takeWhile test (← remaining)) :=
  walks_remaining _ _ fun count more enough sufficient =>
    take_while_walks test close count more (.inr ⟨enough, sufficient⟩)

theorem take_name_walks (what : String) (terminator : Char) (name : List Char) (count more : Nat)
    (enough : source.ahead < count) (sufficient : source.ahead < more) :
    Walks raises runs source outer (takeName what terminator count name) (takeName what terminator more name) := by
  induction count generalizing source outer more name with
  | zero => omega
  | succ count ih =>
    obtain ⟨more, rfl⟩ : ∃ less, more = less + 1 := Nat.exists_eq_succ_of_ne_zero (by omega)
    rw [takeName, takeName]
    refine walks_take _ _ ?_ fun token after _ less => ?_
    · exact gives_ite _ _ _ (fun _ => flaw_fails _ _) fun _ => flaw_fails _ _
    · refine walks_ite _ _ _ _ _ (fun _ => ?_) fun _ => ih _ more (by omega) (by omega)
      exact walks_ite _ _ _ _ _ (fun _ => walks_flaw _ _ _) fun _ => walks_pure name

theorem name_walks (what : String) (terminator : Char) :
    Walks raises runs source outer (name what terminator) (name what terminator) :=
  walks_remaining _ _ fun count more enough sufficient =>
    take_name_walks what terminator [] count more enough sufficient

/- Groups -/

theorem group_count_walks : Walks raises runs source outer groupCount groupCount :=
  walks_asked (fun source => source.groups.length) fun enclosed => by rw [enclosed.groups]

theorem is_closed_walks (index : Nat) : Walks raises runs source outer (isClosed index) (isClosed index) :=
  walks_asked (fun source => ((source.groups[index]?).getD none).isSome) fun enclosed => by rw [enclosed.groups]

theorem group_width_walks (index : Nat) : Walks raises runs source outer (groupWidth index) (groupWidth index) :=
  walks_asked (fun source => ((source.groups[index]?).getD none).getD (0, 0)) fun enclosed => by rw [enclosed.groups]

theorem check_behind_walks (index : Nat) : Walks raises runs source outer (checkBehind index) (checkBehind index) := by
  unfold checkBehind
  refine walks_get _ _ fun enclosed => ?_
  rw [enclosed.behind]
  cases source.behind with
  | none => exact walks_pure ()
  | some before =>
    refine walks_bind _ _ _ _ (is_closed_walks index) fun closed after later _ => ?_
    refine walks_ite _ _ _ _ _ (fun _ => walks_flaw _ _ _) fun _ => ?_
    exact walks_ite _ _ _ _ _ (fun _ => walks_flaw _ _ _) fun _ => walks_pure ()

theorem back_reference_walks (flags : Flags) (index : Nat) :
    Walks raises runs source outer (backReference flags index) (backReference flags index) :=
  walks_bind _ _ _ _ (group_width_walks index) fun _ _ _ _ => walks_pure _

theorem open_group_walks (name : Option (List Char)) :
    Walks raises runs source outer (openGroup name) (openGroup name) := by
  unfold openGroup
  refine walks_get _ _ fun enclosed => ?_
  rw [enclosed.groups, enclosed.names]
  cases name with
  | none =>
    refine walks_set _ _ _ _ rfl rfl (fun enclosed => ?_) fun _ => walks_pure _
    exact { enclosed with groups := rfl, names := rfl }
  | some letters =>
    simp only
    cases source.names.lookup (String.ofList letters) with
    | some earlier => exact walks_flaw _ _ _
    | none =>
      refine walks_set _ _ _ _ rfl rfl (fun enclosed => ?_) fun _ => walks_pure _
      exact { enclosed with groups := rfl, names := rfl }

theorem close_group_walks (index : Nat) (body : Pattern) :
    Walks raises runs source outer (closeGroup index body) (closeGroup index body) :=
  walks_modify _ _ rfl rfl fun enclosed => { enclosed with groups := by rw [enclosed.groups] }

/- Escapes -/

theorem bad_escape_walks (text : List Char) (second : Reading α) :
    Walks raises runs source outer (badEscape text) second :=
  walks_flaw _ _ _

theorem hex_escape_walks (letter : Char) (count : Nat) :
    Walks raises runs source outer (hexEscape letter count) (hexEscape letter count) := by
  refine walks_bind _ _ _ _ (take_while_walks isHex (by decide) count count (.inl rfl)) fun digits _ _ _ => ?_
  refine walks_ite _ _ _ _ _ (fun _ => walks_flaw _ _ _) fun _ => ?_
  exact walks_ite _ _ _ _ _ (fun _ => bad_escape_walks _ _) fun _ => walks_pure _

theorem named_escape_walks (named : String → Option Char) :
    Walks raises runs source outer (namedEscape named) (namedEscape named) := by
  unfold namedEscape
  refine walks_bind _ _ _ _ (accept_walks '\x7b' (by decide)) fun brace _ _ _ => ?_
  refine walks_ite _ _ _ _ _ (fun _ => walks_flaw _ _ _) fun _ => ?_
  refine walks_bind _ _ _ _ (name_walks _ _) fun letters _ _ _ => ?_
  split
  · exact walks_pure _
  · exact walks_flaw _ _ _

theorem octal_code_walks (text digits : List Char) :
    Walks raises runs source outer (octalCode text digits) (octalCode text digits) :=
  walks_ite _ _ _ _ _ (fun _ => walks_flaw _ _ _) fun _ => walks_pure _

theorem letter_escape_walks (c : Char) : Walks raises runs source outer (letterEscape c) (letterEscape c) := by
  unfold letterEscape
  refine walks_get _ _ fun enclosed => ?_
  rw [enclosed.dialect]
  split
  · exact hex_escape_walks _ _
  · exact hex_escape_walks _ _
  · exact hex_escape_walks _ _
  · exact named_escape_walks _
  · exact walks_ite _ _ _ _ _ (fun _ => bad_escape_walks _ _) fun _ => walks_pure _

theorem set_escape_walks (flags : Flags) (c : Char) :
    Walks raises runs source outer (setEscape flags c) (setEscape flags c) := by
  unfold setEscape
  split
  · exact walks_pure _
  · exact walks_pure _
  · refine walks_ite _ _ _ _ _ (fun _ => ?_) fun _ => ?_
    · refine walks_bind _ _ _ _ (take_while_walks isOctal (by decide) 2 2 (.inl rfl)) fun more _ _ _ => ?_
      exact walks_bind _ _ _ _ (octal_code_walks _ _) fun _ _ _ _ => walks_pure _
    · exact walks_bind _ _ _ _ (letter_escape_walks c) fun _ _ _ _ => walks_pure _

theorem number_escape_walks (flags : Flags) (c : Char) :
    Walks raises runs source outer (numberEscape flags c) (numberEscape flags c) := by
  unfold numberEscape
  refine walks_ite _ _ _ _ _ (fun _ => ?_) fun _ => ?_
  · refine walks_bind _ _ _ _ (take_while_walks isOctal (by decide) 2 2 (.inl rfl)) fun more _ _ _ => walks_pure _
  · refine walks_bind _ _ _ _ (take_while_walks isNumeral (by decide) 1 1 (.inl rfl)) fun second _ _ _ => ?_
    refine walks_join _ _ _ _ _ (take_while_walks isOctal (by decide) 1 1 (.inl rfl)) (walks_pure [])
      fun third _ _ _ => ?_
    refine walks_ite _ _ _ _ _ (fun _ => ?_) fun _ => ?_
    · exact walks_bind _ _ _ _ (octal_code_walks _ _) fun _ _ _ _ => walks_pure _
    · refine walks_bind _ _ _ _ group_count_walks fun _ _ _ _ => ?_
      refine walks_ite _ _ _ _ _ (fun _ => ?_) fun _ => walks_flaw _ _ _
      refine walks_bind _ _ _ _ (is_closed_walks _) fun _ _ _ _ => ?_
      refine walks_ite _ _ _ _ _ (fun _ => walks_flaw _ _ _) fun _ => ?_
      exact walks_bind _ _ _ _ (check_behind_walks _) fun _ _ _ _ => back_reference_walks flags _

theorem escape_walks (flags : Flags) (c : Char) : Walks raises runs source outer (escape flags c) (escape flags c) := by
  unfold escape
  split
  · exact walks_pure _
  · exact walks_pure _
  · exact walks_pure _
  · refine walks_ite _ _ _ _ _ (fun _ => ?_) fun _ => ?_
    · exact walks_bind _ _ _ _ (number_escape_walks flags c) fun _ _ _ _ => walks_pure _
    · exact walks_bind _ _ _ _ (letter_escape_walks c) fun _ _ _ _ => walks_pure _

/- Sets -/

theorem set_member_walks (flags : Flags) (token : Token) :
    Walks raises runs source outer (setMember flags token) (setMember flags token) := by
  cases token with
  | plain c => exact walks_pure _
  | escaped c => exact set_escape_walks flags c

theorem set_range_walks (first last : SetItem) (start stop : Token) :
    Walks raises runs source outer (setRange first last start stop) (setRange first last start stop) := by
  unfold setRange
  split
  · exact walks_ite _ _ _ _ _ (fun _ => walks_flaw _ _ _) fun _ => walks_pure _
  · exact walks_flaw _ _ _

theorem set_items_walks (flags : Flags) (opening place count more : Nat) (read : List CharItem)
    (enough : source.ahead < count) (sufficient : source.ahead < more) :
    Walks raises runs source outer (setItems flags opening count read) (setItems flags place more read) := by
  induction count generalizing source outer more read with
  | zero => omega
  | succ count ih =>
    obtain ⟨more, rfl⟩ : ∃ less, more = less + 1 := Nat.exists_eq_succ_of_ne_zero (by omega)
    rw [setItems, setItems]
    refine walks_take _ _ (flaw_at_fails _ _) fun token after _ less => ?_
    refine walks_ite _ _ _ _ _ (fun _ => walks_pure read) fun _ => ?_
    refine walks_bind _ _ _ _ (set_member_walks flags token) fun first middle _ fewer => ?_
    refine walks_accept '-' (by decide) _ _ (fun end' _ shorter => ?_) (ih _ _ (by omega) (by omega))
    refine walks_take _ _ (flaw_at_fails _ _) fun stop final _ still => ?_
    split
    · exact walks_flaw_at _ _ _
    · exact walks_pure _
    · refine walks_bind _ _ _ _ (set_member_walks flags _) fun last _ _ low => ?_
      refine walks_bind _ _ _ _ (set_range_walks _ _ _ _) fun range _ _ lower => ?_
      exact ih _ _ (by omega) (by omega)

theorem char_set_walks (flags : Flags) : Walks raises runs source outer (charSet flags) (charSet flags) := by
  unfold charSet
  refine walks_place _ _ fun here there => ?_
  refine walks_bind _ _ _ _ (accept_walks '^' (by decide)) fun negated _ _ _ => ?_
  refine walks_remaining _ _ fun count more enough sufficient => ?_
  exact walks_bind _ _ _ _ (set_items_walks _ _ _ _ _ _ enough sufficient) fun _ _ _ _ => walks_pure _

/- Quantifiers -/

-- As `Walks`, for what may go back to a place before.
def Returns (raises runs : Prop) (start source outer : Source) (first second : Reading α) : Prop :=
  Enclosed source outer → ∀ value after, first.run source = .ok (value, after) →
    after.ahead ≤ start.ahead ∧ Course raises runs start after value (second.run outer)

theorem returns_bind (start : Source) (first second : Reading α) (next other : α → Reading β)
    (begun : Walks False False source outer first second) (goes : ∀ value after later, after.ahead ≤ source.ahead →
      after.flags = source.flags → Returns raises runs start after later (next value) (other value)) :
    Returns raises runs start source outer (first >>= next) (second >>= other) := by
  intro enclosed result final found
  obtain ⟨value, after, one, two⟩ := (run_bind_ok _ _ _ _ _).mp found
  obtain ⟨less, course⟩ := begun enclosed value after one
  cases course with
  | raised may _ _ => cases may
  | ended may _ _ _ => cases may
  | carried later same read within =>
    rw [run_bind_read second other outer value later read]
    exact goes value after later less same within result final two

theorem walks_returns (start : Source) (first second : Reading α) (less : source.ahead ≤ start.ahead)
    (same : source.flags = start.flags) (walks : Walks raises runs source outer first second) :
    Returns raises runs start source outer first second := by
  intro enclosed value after found
  obtain ⟨fewer, course⟩ := walks enclosed value after found
  refine ⟨Nat.le_trans fewer less, ?_⟩
  cases course with
  | raised may some within => exact .raised may some within
  | ended may flags nothing within => exact .ended may (flags.trans same) nothing within
  | carried later flags read within => exact .carried later (flags.trans same) read within

theorem numerals_returns (start : Source) (next other : List Char → Reading β)
    (goes : ∀ digits after later, after.ahead ≤ source.ahead → after.flags = source.flags →
      Returns raises runs start after later (next digits) (other digits)) :
    Returns raises runs start source outer (remaining >>= fun count => takeWhile isNumeral count >>= next)
      (remaining >>= fun count => takeWhile isNumeral count >>= other) := by
  rw [← bind_assoc, ← bind_assoc]
  exact returns_bind start _ _ _ _ (take_all_walks isNumeral (by decide)) goes

theorem token_apart (token : Token) (close : token ≠ .plain ')') (enclosed : Enclosed source outer) :
    (outer.token == some token) = (source.token == some token) := by
  rcases enclosed.text with ⟨_, here, same, _⟩ | ⟨none, _, closes, _⟩
  · rw [here, same]
  · rw [none, closes]
    simpa using Ne.symm close

-- Braces that are no bounds are gone back from.
theorem braces_walks : Walks raises runs source outer braces braces := by
  unfold braces
  refine walks_get _ _ fun enclosed => ?_
  rw [token_apart (.plain '\x7d') (by decide) enclosed]
  refine walks_ite _ _ _ _ _ (fun _ => walks_pure _) fun _ => ?_
  refine numerals_returns source _ _ fun low after later less same => ?_
  refine returns_bind source _ _ _ _ (accept_walks ',' (by decide)) fun comma middle next fewer alike => ?_
  extract_lets onward further
  have goes (high : List Char) (middle next : Source) (fewer : middle.ahead ≤ source.ahead)
      (alike : middle.flags = source.flags) : Returns raises runs source middle next (onward high) (further high) := by
    refine returns_bind source _ _ _ _ (accept_walks '\x7d' (by decide)) fun closed final last fewest still => ?_
    cases closed with
    | false =>
      rintro - value after found
      cases found
      exact ⟨Nat.le_refl _, .carried outer rfl rfl enclosed⟩
    | true =>
      refine walks_returns source _ _ (Nat.le_trans fewest fewer) (still.trans alike) ?_
      refine walks_ite _ _ _ _ _ (fun unclosed => nomatch unclosed) fun _ => ?_
      refine walks_bind _ _ _ _ (walks_lift (boundOf low)) fun least _ _ _ => ?_
      refine walks_ite _ _ _ _ _ (fun _ => walks_pure _) fun _ => ?_
      refine walks_bind _ _ _ _ (walks_lift (boundOf high)) fun most _ _ _ => ?_
      exact walks_ite _ _ _ _ _ (fun _ => walks_flaw_at _ _ _) fun _ => walks_pure _
  have near : middle.ahead ≤ source.ahead := Nat.le_trans fewer less
  cases comma with
  | false => exact goes low middle next near (alike.trans same)
  | true =>
    refine numerals_returns source _ _ fun high final last fewest still => ?_
    exact goes high final last (Nat.le_trans fewest near) (still.trans (alike.trans same))

theorem bounds_walks (c : Char) : Walks raises runs source outer (bounds? c) (bounds? c) := by
  unfold bounds?
  split
  · exact walks_pure _
  · exact walks_pure _
  · exact walks_pure _
  · exact braces_walks

theorem quantified_walks (mark place least : Nat) (most : Option Nat) (read : List Item) :
    Walks raises runs source outer (quantified mark least most read) (quantified place least most read) := by
  cases read with
  | nil => exact walks_flaw_at _ _ _
  | cons item items =>
    unfold quantified
    simp only
    split
    · exact walks_flaw_at _ _ _
    · exact walks_flaw_at _ _ _
    · refine walks_accept '?' (by decide) _ _ (fun _ _ _ => walks_pure _) ?_
      exact walks_accept '+' (by decide) _ _ (fun _ _ _ => walks_pure _) (walks_pure _)

/- Flags -/

theorem wrong_flag_fails (token : Token) (otherwise : Flaw) : Fails (wrongFlag token otherwise : Reading α) := by
  cases token with
  | plain c => exact flaw_fails _ _
  | escaped c => exact flaw_fails _ _

theorem flags_on_walks (count more : Nat) (flag : Flag) (on : List Flag) (enough : source.ahead < count)
    (sufficient : source.ahead < more) :
    Walks raises runs source outer (flagsOn count flag on) (flagsOn more flag on) := by
  induction count generalizing source outer more flag on with
  | zero => omega
  | succ count ih =>
    obtain ⟨more, rfl⟩ : ∃ less, more = less + 1 := Nat.exists_eq_succ_of_ne_zero (by omega)
    rw [flagsOn, flagsOn]
    refine walks_get _ _ fun enclosed => ?_
    rw [enclosed.dialect]
    split
    · exact walks_flaw _ _ _
    refine walks_ite _ _ _ _ _ (fun _ => walks_flaw _ _ _) fun _ => ?_
    refine walks_take _ _ (flaw_fails _ _) fun token after _ less => ?_
    cases token with
    | escaped c => exact fails_walks _ _ (wrong_flag_fails _ _)
    | plain c =>
      refine walks_ite _ _ _ _ _ (fun _ => walks_pure _) fun _ => ?_
      split
      · exact ih _ _ _ (by omega) (by omega)
      · exact fails_walks _ _ (wrong_flag_fails _ _)

theorem flags_off_walks (count more : Nat) (flag : Flag) (off : List Flag) (enough : source.ahead < count)
    (sufficient : source.ahead < more) :
    Walks raises runs source outer (flagsOff count flag off) (flagsOff more flag off) := by
  induction count generalizing source outer more flag off with
  | zero => omega
  | succ count ih =>
    obtain ⟨more, rfl⟩ : ∃ less, more = less + 1 := Nat.exists_eq_succ_of_ne_zero (by omega)
    rw [flagsOff, flagsOff]
    refine walks_ite _ _ _ _ _ (fun _ => walks_flaw _ _ _) fun _ => ?_
    refine walks_take _ _ (flaw_fails _ _) fun token after _ less => ?_
    simp only
    split
    · exact walks_pure _
    · split
      · exact ih _ _ _ (by omega) (by omega)
      · exact fails_walks _ _ (wrong_flag_fails _ _)
    · exact fails_walks _ _ (wrong_flag_fails _ _)

theorem first_flag_off_walks : Walks raises runs source outer firstFlagOff firstFlagOff := by
  refine walks_take _ _ (flaw_fails _ _) fun token after _ less => ?_
  cases token with
  | escaped c => exact fails_walks _ _ (wrong_flag_fails _ _)
  | plain c =>
    simp only
    split
    · exact walks_remaining _ _ fun _ _ enough sufficient => flags_off_walks _ _ _ _ enough sufficient
    · exact fails_walks _ _ (wrong_flag_fails _ _)

theorem flag_scope_walks (c : Char) : Walks raises runs source outer (flagScope c) (flagScope c) := by
  unfold flagScope
  extract_lets onward
  have goes (on : List Flag × Char) (after later : Source) : Walks raises runs after later (onward on) (onward on) := by
    refine walks_ite _ _ _ _ _ (fun _ => walks_pure _) fun _ => ?_
    refine walks_ite _ _ _ _ _ (fun _ => walks_flaw _ _ _) fun _ => ?_
    refine walks_join _ _ _ _ _ first_flag_off_walks (walks_pure []) fun off _ _ _ => ?_
    refine walks_ite _ _ _ _ _ (fun _ => walks_flaw _ _ _) fun _ => ?_
    exact walks_ite _ _ _ _ _ (fun _ => walks_flaw _ _ _) fun _ => walks_pure _
  split
  · refine walks_remaining _ _ fun count more enough sufficient => ?_
    exact walks_bind _ _ _ _ (flags_on_walks _ _ _ _ enough sufficient) fun on after later _ => goes on after later
  · exact goes ([], '-') source outer

/- Groups by name -/

theorem group_name_walks (terminator : Char) :
    Walks raises runs source outer (groupName terminator) (groupName terminator) := by
  refine walks_bind _ _ _ _ (name_walks _ _) fun letters _ _ _ => ?_
  exact walks_ite _ _ _ _ _ (fun _ => walks_pure _) fun _ => walks_flaw _ _ _

theorem named_group_walks (letters : List Char) :
    Walks raises runs source outer (namedGroup letters) (namedGroup letters) := by
  unfold namedGroup
  refine walks_get _ _ fun enclosed => ?_
  rw [enclosed.names]
  split
  · exact walks_pure _
  · exact walks_flaw _ _ _

theorem lookup_first (index : Nat) (first second : List (Nat × Nat)) (same : second.map Prod.fst = first.map Prod.fst) :
    (second.lookup index).isSome = (first.lookup index).isSome := by
  have shown (entries : List (Nat × Nat)) : (entries.lookup index).isSome = (entries.map Prod.fst).contains index := by
    induction entries with
    | nil => rfl
    | cons entry entries ih =>
      rw [List.map_cons, List.contains_cons, List.lookup_cons, ← ih]
      cases index == entry.1 <;> rfl
  rw [shown, shown, same]

-- The places where conditions stand are told in failures only.
theorem mark_walks (index mark place : Nat) :
    Walks raises runs source outer
      (modify fun source => if (source.forward.lookup index).isSome then source
        else { source with forward := source.forward ++ [(index, mark)] })
      (modify fun source => if (source.forward.lookup index).isSome then source
        else { source with forward := source.forward ++ [(index, place)] }) := by
  refine walks_modify _ _ ?_ ?_ fun enclosed => ?_
  · split <;> rfl
  · split <;> rfl
  · rw [lookup_first index _ _ enclosed.forward]
    split
    · exact enclosed
    · exact { enclosed with forward := by simp [enclosed.forward] }

theorem condition_walks : Walks raises runs source outer condition condition := by
  unfold condition
  refine walks_bind _ _ _ _ (name_walks _ _) fun letters _ _ _ => ?_
  extract_lets checked
  have goes (index : Nat) (after later : Source) : Walks raises runs after later (checked index) (checked index) :=
    walks_bind _ _ _ _ (check_behind_walks index) fun _ _ _ _ => walks_pure index
  refine walks_ite _ _ _ _ _ (fun _ => ?_) fun _ => ?_
  · exact walks_bind _ _ _ _ (named_group_walks letters) fun index after later _ => goes index after later
  · split
    · exact fails_walks _ _ (bind_fails _ _ (flaw_fails _ _))
    · refine walks_ite _ _ _ _ _ (fun _ => fails_walks _ _ (bind_fails _ _ (flaw_fails _ _))) fun _ => ?_
      refine walks_ite _ _ _ _ _ (fun _ => fails_walks _ _ (bind_fails _ _ (flaw_fails _ _))) fun _ => ?_
      refine walks_ite _ _ _ _ _ (fun _ => fails_walks _ _ (bind_fails _ _ (flaw_fails _ _))) fun _ => ?_
      refine walks_place _ _ fun here there => ?_
      refine walks_bind _ _ _ _ (mark_walks _ _ _) fun _ after later _ => goes _ after later

theorem opened_walks (flags : Flags) (name : Option (List Char)) :
    Walks raises runs source outer (opened flags name) (opened flags name) :=
  walks_bind _ _ _ _ (open_group_walks name) fun _ _ _ _ => walks_pure _

theorem extension_walks (flags : Flags) : Walks raises runs source outer (extension flags) (extension flags) := by
  unfold extension
  refine walks_accept '<' (by decide) _ _ (fun _ _ _ => ?_) ?_
  · exact walks_bind _ _ _ _ (group_name_walks _) fun _ _ _ _ => opened_walks flags _
  · refine walks_accept '=' (by decide) _ _ (fun _ _ _ => ?_) ?_
    · refine walks_bind _ _ _ _ (group_name_walks _) fun letters _ _ _ => ?_
      refine walks_bind _ _ _ _ (named_group_walks letters) fun index _ _ _ => ?_
      refine walks_bind _ _ _ _ (is_closed_walks _) fun _ _ _ _ => ?_
      refine walks_ite _ _ _ _ _ (fun _ => walks_flaw _ _ _) fun _ => ?_
      refine walks_bind _ _ _ _ (check_behind_walks _) fun _ _ _ _ => ?_
      exact walks_bind _ _ _ _ (back_reference_walks flags _) fun _ _ _ _ => walks_pure _
    · exact walks_take _ _ (flaw_fails _ _) fun token _ _ _ => walks_flaw _ _ _

theorem lookbehind_walks : Walks raises runs source outer lookbehind lookbehind := by
  unfold lookbehind
  refine walks_take _ _ (flaw_fails _ _) fun token _ _ _ => ?_
  split
  · exact walks_flaw _ _ _
  · exact walks_pure _
  · exact walks_pure _
  · exact walks_flaw _ _ _

theorem skip_comment_walks (start place count more : Nat) (enough : source.ahead < count)
    (sufficient : source.ahead < more) :
    Walks raises runs source outer (skipComment start count) (skipComment place more) := by
  induction count generalizing source outer more with
  | zero => omega
  | succ count ih =>
    obtain ⟨more, rfl⟩ : ∃ less, more = less + 1 := Nat.exists_eq_succ_of_ne_zero (by omega)
    rw [skipComment, skipComment]
    refine walks_peek _ _ (fun token here => ?_) (walks_flaw_at _ _ _)
    refine walks_taken token here _ _ fun after _ less => ?_
    exact walks_ite _ _ _ _ _ (fun _ => walks_pure ()) fun _ => ih _ (by omega) (by omega)

end

end Gatehouse.PatternText
