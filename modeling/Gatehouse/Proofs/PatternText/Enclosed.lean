import Gatehouse.Proofs.PatternText.Parts

/- A pattern in a group that takes no part in references. Its alternatives are read within the parentheses as they are
   read alone, unless they set flags for the whole of the text. -/
namespace Gatehouse.PatternText

open Pattern

section

variable {α β : Type} {raises runs : Prop} {source outer : Source}

/- Flags for the whole of a text -/

-- There are flags to turn on.
def Raising (on : List Flag) : Prop := ∃ flag others, on = flag :: others

theorem flags_on_given (count : Nat) (flag : Flag) (read : List Flag) :
    Gives (fun given _ => ∃ others, given.1 = read ++ flag :: others) (flagsOn count flag read) := by
  induction count generalizing flag read with
  | zero => exact fails_gives _ (flaw_fails _ _)
  | succ count ih =>
    rw [flagsOn]
    refine gives_bind _ _ fun source => ?_
    split
    · exact fails_gives _ (flaw_fails _ _)
    refine gives_ite _ _ _ (fun _ => fails_gives _ (flaw_fails _ _)) fun _ => ?_
    refine gives_bind _ _ fun taken => ?_
    cases taken with
    | none => exact fails_gives _ (flaw_fails _ _)
    | some token =>
      cases token with
      | escaped c => exact fails_gives _ (wrong_flag_fails _ _)
      | plain c =>
        refine gives_ite _ _ _ (fun _ => gives_pure _ fun _ => ⟨[], rfl⟩) fun _ => ?_
        split
        · intro source given after found
          obtain ⟨others, same⟩ := ih _ _ source given after found
          exact ⟨_ :: others, by rw [same, List.append_assoc]; rfl⟩
        · exact fails_gives _ (wrong_flag_fails _ _)

theorem flag_scope_raising (c : Char) :
    Gives (fun scope _ => ∀ on, scope = .whole on → Raising on) (flagScope c) := by
  unfold flagScope
  extract_lets onward
  have goes (given : List Flag × Char) (raising : given.2 = ')' → Raising given.1) :
      Gives (fun scope _ => ∀ on, scope = .whole on → Raising on) (onward given) := by
    refine gives_ite _ _ _ (fun close => gives_pure _ fun _ on same => ?_) fun _ => ?_
    · cases same
      exact raising (by simpa using close)
    · refine gives_ite _ _ _ (fun _ => fails_gives _ (flaw_fails _ _)) fun _ => ?_
      refine gives_join _ _ _ _ fun off => ?_
      refine gives_ite _ _ _ (fun _ => fails_gives _ (flaw_fails _ _)) fun _ => ?_
      refine gives_ite _ _ _ (fun _ => fails_gives _ (flaw_fails _ _)) fun _ => ?_
      exact gives_pure _ fun _ on same => nomatch same
  split
  · refine gives_bind _ _ fun count => ?_
    refine gives_bind_known _ _ _ (flags_on_given count _ []) fun given ⟨others, same⟩ => ?_
    exact goes given fun _ => ⟨_, others, same⟩
  · exact goes ([], '-') fun never => by cases never

theorem fold_raises (step : Flags → Flag → Flags) (stays : ∀ flags flag, flags ≠ .none → step flags flag ≠ .none)
    (flags : Flags) (on : List Flag) (some : flags ≠ .none) : on.foldl step flags ≠ .none := by
  induction on generalizing flags with
  | nil => exact some
  | cons flag on ih => exact ih (step flags flag) (stays flags flag some)

theorem turn_whole_raises (on : List Flag) (raising : Raising on) :
    Gives (fun _ after => after.flags ≠ .none) (turnWhole on) := by
  obtain ⟨flag, others, rfl⟩ := raising
  intro source value after found
  cases found
  simp only [List.foldl_cons]
  refine fold_raises _ (fun flags other some => ?_) _ others ?_
  · cases other <;> simp [Flags.put, Flags.none]
  · cases flag <;> simp [Flags.put, Flags.none]

/- What an opening parenthesis begins -/

-- Flags are given only where they were set.
def Raised (opening : Opening) (after : Source) : Prop := ∀ given, opening = .flags given → after.flags ≠ .none

theorem other_raised (opening : Opening) (other : ∀ given, opening ≠ .flags given) : Gives Raised (pure opening) :=
  gives_pure _ fun _ given same => absurd same (other given)

theorem opened_raised (flags : Flags) (name : Option (List Char)) : Gives Raised (opened flags name) :=
  gives_bind _ _ fun _ => other_raised _ nofun

theorem extension_raised (flags : Flags) : Gives Raised (extension flags) := by
  unfold extension
  refine gives_bind _ _ fun named => gives_ite _ _ _ (fun _ => ?_) fun _ => ?_
  · exact gives_bind _ _ fun letters => opened_raised _ _
  refine gives_bind _ _ fun again => gives_ite _ _ _ (fun _ => ?_) fun _ => ?_
  · refine gives_bind _ _ fun letters => gives_bind _ _ fun index => gives_bind _ _ fun closed => ?_
    refine gives_ite _ _ _ (fun _ => fails_gives _ (flaw_fails _ _)) fun _ => ?_
    exact gives_bind _ _ fun _ => gives_bind _ _ fun _ => other_raised _ nofun
  · refine gives_bind _ _ fun taken => ?_
    cases taken with
    | none => exact fails_gives _ (flaw_fails _ _)
    | some token => exact fails_gives _ (flaw_fails _ _)

theorem lookbehind_raised : Gives Raised lookbehind := by
  refine gives_bind _ _ fun taken => ?_
  split
  · exact fails_gives _ (flaw_fails _ _)
  · exact other_raised _ nofun
  · exact other_raised _ nofun
  · exact fails_gives _ (flaw_fails _ _)

theorem turned_raised (on : List Flag) (raising : Raising on) (start : Nat) (first : Bool) :
    Gives Raised (do
      let flags ← turnWhole on
      if first then return .flags flags else flawAt .lateFlags start) := by
  intro source opening final found given _
  obtain ⟨flags, after, read, found⟩ := (run_bind_ok _ _ _ _ _).mp found
  cases first with
  | false => exact (flaw_at_fails _ _ _ _ _ found).elim
  | true =>
    cases found
    exact turn_whole_raises on raising source flags _ read

theorem opening_raised (flags : Flags) (start : Nat) (first : Bool) : Gives Raised (opening flags start first) := by
  unfold opening
  refine gives_bind _ _ fun extended => gives_ite _ _ _ (fun _ => opened_raised _ _) fun _ => ?_
  refine gives_bind _ _ fun taken => ?_
  cases taken with
  | none => exact fails_gives _ (flaw_fails _ _)
  | some token =>
    simp only
    split
    · exact extension_raised flags
    · exact other_raised _ nofun
    · exact gives_bind _ _ fun _ => gives_bind _ _ fun _ => other_raised _ nofun
    · exact other_raised _ nofun
    · exact other_raised _ nofun
    · exact lookbehind_raised
    · exact gives_bind _ _ fun _ => other_raised _ nofun
    · exact other_raised _ nofun
    · refine gives_ite _ _ _ (fun _ => ?_) fun _ => fails_gives _ (flaw_fails _ _)
      refine gives_bind_known _ _ _ (flag_scope_raising _) fun scope raising => ?_
      cases scope with
      | group on off => exact other_raised _ nofun
      | whole on => exact turned_raised on (raising on rfl) start first
    · exact fails_gives _ (flaw_fails _ _)

theorem turned_walks (on : List Flag) (raising : Raising on) (start place : Nat) (first other : Bool) :
    Walks True runs source outer
      (do
        let flags ← turnWhole on
        if first then return Opening.flags flags else flawAt .lateFlags start)
      (do
        let flags ← turnWhole on
        if other then return Opening.flags flags else flawAt .lateFlags place) := by
  cases first with
  | false => exact fails_walks _ _ (gives_bind _ _ fun flags => flaw_at_fails _ _)
  | true =>
    intro enclosed opening final found
    cases found
    exact ⟨Nat.le_refl _, .raised trivial (turn_whole_raises on raising source _ _ rfl)
      ⟨{ outer with flags := _ }, { enclosed with flags := rfl }⟩⟩

theorem opening_walks (flags : Flags) (start place : Nat) (first other : Bool) :
    Walks True runs source outer (opening flags start first) (opening flags place other) := by
  unfold opening
  refine walks_bind _ _ _ _ (accept_walks '?' (by decide)) fun extended after later _ => ?_
  refine walks_ite _ _ _ _ _ (fun _ => opened_walks flags none) fun _ => ?_
  refine walks_take _ _ (flaw_fails _ _) fun token after later _ => ?_
  simp only
  split
  · exact extension_walks flags
  · exact walks_pure _
  · refine walks_remaining _ _ fun count more enough sufficient => ?_
    exact walks_bind _ _ _ _ (skip_comment_walks _ _ _ _ enough sufficient) fun _ _ _ _ => walks_pure _
  · exact walks_pure _
  · exact walks_pure _
  · exact lookbehind_walks
  · exact walks_bind _ _ _ _ condition_walks fun _ _ _ _ => walks_pure _
  · exact walks_pure _
  · refine walks_ite _ _ _ _ _ (fun _ => ?_) fun _ => walks_flaw _ _ _
    refine walks_bind_read _ _ _ _ (flag_scope_walks _) fun scope after later read _ => ?_
    cases scope with
    | group on off => exact walks_pure _
    | whole on => exact turned_walks on (flag_scope_raising _ _ _ _ read on rfl) _ _ _ _
  · exact walks_flaw _ _ _

/- What closes a group, and comments -/

theorem closing_walks (start place : Nat) : Walks raises runs source outer (closing start) (closing place) := by
  unfold closing
  rw [accept_bind, accept_bind]
  refine walks_peek _ _ (fun token here => ?_) ?_
  · refine walks_ite _ _ _ _ _ (fun _ => ?_) fun _ => walks_flaw_at _ _ _
    exact walks_taken token here _ _ fun _ _ _ => walks_pure ()
  · exact fails_walks _ _ (gives_ite _ _ _ (fun same => nomatch same) fun _ => flaw_at_fails _ _)

theorem closing_ahead (start : Nat) (done : Unit) (after : Source)
    (found : (closing start).run source = .ok (done, after)) : source.ahead ≠ 0 := by
  unfold closing at found
  rw [accept_bind] at found
  cases here : source.token with
  | some token => simp [Source.ahead, here]
  | none =>
    obtain ⟨token, same, read, found⟩ := (run_bind_ok _ _ _ _ _).mp found
    rw [peek_runs, here] at read
    cases read
    cases found

-- A comment that runs up to the end leaves no parenthesis to close the group.
theorem walks_closed {loose : Prop} (first second : Reading α) (next other : α → Reading β) (start place : Nat)
    (begun : Walks raises loose source outer first second)
    (goes : ∀ value after later, after.ahead ≤ source.ahead →
      Walks raises runs after later (next value) (other value)) :
    Walks raises runs source outer (first >>= fun value => closing start >>= fun _ => next value)
      (second >>= fun value => closing place >>= fun _ => other value) := by
  intro enclosed result final found
  obtain ⟨value, after, one, two⟩ := (run_bind_ok _ _ _ _ _).mp found
  obtain ⟨less, course⟩ := begun enclosed value after one
  have more : after.ahead ≠ 0 := by
    obtain ⟨done, middle, closed, _⟩ := (run_bind_ok _ _ _ _ _).mp two
    exact closing_ahead start done middle closed
  have tight : Course raises runs source after value (second.run outer) := by
    cases course with
    | raised may some within => exact .raised may some within
    | ended _ _ nothing _ => exact absurd nothing more
    | carried later flags read within => exact .carried later flags read within
  have rest (later : Source) : Walks raises runs after later (closing start >>= fun _ => next value)
      (closing place >>= fun _ => other value) :=
    walks_bind _ _ _ _ (closing_walks start place) fun _ middle last fewer =>
      goes value middle last (Nat.le_trans fewer less)
  obtain ⟨fewer, onward⟩ := course_onward value after second _ (fun value => closing place >>= fun _ => other value)
    result final tight rest two
  exact ⟨Nat.le_trans fewer less, onward⟩

theorem skip_line_walks (may : runs) (count more : Nat) (enough : source.ahead < count)
    (sufficient : source.ahead < more) : Walks raises runs source outer (skipLine count) (skipLine more) := by
  induction count generalizing source outer more with
  | zero => omega
  | succ count ih =>
    obtain ⟨more, rfl⟩ : ∃ less, more = less + 1 := Nat.exists_eq_succ_of_ne_zero (by omega)
    rw [skipLine, skipLine]
    cases here : source.token with
    | some token =>
      refine walks_taken token here _ _ fun after _ less => ?_
      exact walks_ite _ _ _ _ _ (fun _ => walks_pure ()) fun _ => ih _ (by omega) (by omega)
    | none =>
      intro enclosed done final found
      obtain ⟨taken, after, one, two⟩ := (run_bind_ok _ _ _ _ _).mp found
      obtain ⟨shifted, rfl⟩ := (take_ok _ _ _).mp one
      rw [here] at two
      cases two
      rcases enclosed.text with ⟨_, token, _⟩ | ⟨_, finished, close, rest⟩
      · rw [here] at token
        cases token
      · cases shift_shifted final shifted with
        | ended _ =>
          have nothing : Source.ahead { source with token := none } = 0 := by simp [Source.ahead, finished]
          refine ⟨by omega, .ended may rfl nothing ⟨outer, ?_⟩⟩
          exact { enclosed with text := .inr ⟨rfl, finished, close, rest⟩ }
        | escaped _ _ more => cases finished.symm.trans more
        | plain _ _ _ more => cases finished.symm.trans more

theorem walks_raised {other loose : Prop} (some : source.flags ≠ .none) (first second third : Reading α)
    (begun : Walks other loose source outer first third) : Walks True runs source outer first second := by
  intro enclosed value after found
  obtain ⟨less, course⟩ := begun enclosed value after found
  exact ⟨less, .raised trivial (course_raised after value _ some course) (course_within after value _ course)⟩

/- Alternatives -/

structure Reads (fuel : Nat) : Prop where
  items : ∀ source outer flags first other read more, 2 * source.ahead + 1 ≤ fuel → 2 * source.ahead + 1 ≤ more →
    Walks True (flags.verbose = true) source outer (items flags first read fuel) (items flags other read more)
  branches : ∀ source outer flags more, 2 * source.ahead + 1 ≤ fuel → 2 * source.ahead + 1 ≤ more →
    Walks True (flags.verbose = true) source outer (branches flags false fuel) (branches flags false more)
  alternatives : ∀ source outer flags more, 2 * source.ahead + 2 ≤ fuel → 2 * source.ahead + 2 ≤ more →
    Walks True (flags.verbose = true) source outer (alternatives flags false fuel) (alternatives flags false more)

theorem alternatives_step (fuel : Nat) (reads : Reads fuel) (flags : Flags) (more : Nat)
    (enough : 2 * source.ahead + 2 ≤ fuel + 1) (sufficient : 2 * source.ahead + 2 ≤ more + 1) :
    Walks True (flags.verbose = true) source outer (alternatives flags false (fuel + 1))
      (alternatives flags false (more + 1)) := by
  rw [alternatives, alternatives]
  refine walks_bind _ _ _ _ (reads.items _ _ _ _ _ _ _ (by omega) (by omega)) fun first after later less => ?_
  refine walks_bind _ _ _ _ (reads.branches _ _ _ _ (by omega) (by omega)) fun rest _ _ _ => ?_
  exact walks_pure _

theorem branches_step (fuel : Nat) (reads : Reads fuel) (flags : Flags) (more : Nat)
    (enough : 2 * source.ahead + 1 ≤ fuel + 1) (sufficient : 2 * source.ahead + 1 ≤ more + 1) :
    Walks True (flags.verbose = true) source outer (branches flags false (fuel + 1))
      (branches flags false (more + 1)) := by
  rw [branches, branches]
  refine walks_accept '|' (by decide) _ _ (fun after later less => ?_) (walks_pure [])
  refine walks_get _ _ fun _ => ?_
  refine walks_bind _ _ _ _ (reads.items _ _ _ _ _ _ _ (by omega) (by omega)) fun next final last fewer => ?_
  refine walks_bind _ _ _ _ (reads.branches _ _ _ _ (by omega) (by omega)) fun rest _ _ _ => ?_
  exact walks_pure _

-- What goes on behind a lookaround: `behind` is what was to be remembered around it.
theorem look_step (fuel : Nat) (reads : Reads fuel) (flags : Flags) (behind : Option Nat) (more start place : Nat)
    (next other : Pattern → Reading Pattern) (enough : 2 * source.ahead + 2 ≤ fuel)
    (sufficient : 2 * source.ahead + 2 ≤ more) (goes : ∀ body final last, final.ahead ≤ source.ahead →
      Walks True (flags.verbose = true) final last (next body) (other body)) :
    Walks True (flags.verbose = true) source outer
      (do
        let body ← alternatives flags false fuel
        modify fun source => { source with behind := behind }
        closing start
        next body)
      (do
        let body ← alternatives flags false more
        modify fun source => { source with behind := behind }
        closing place
        other body) := by
  refine walks_bind _ _ _ _ (reads.alternatives _ _ flags _ enough sufficient) fun body _ _ less => ?_
  refine walks_bind _ _ _ _ (walks_modify _ _ rfl rfl fun same => { same with behind := rfl }) fun _ _ _ fewer => ?_
  exact walks_bind _ _ _ _ (closing_walks start place) fun _ final last least => goes body final last (by omega)

theorem condition_step (fuel : Nat) (reads : Reads fuel) (flags : Flags) (more start place : Nat)
    (next other : Pattern → Pattern → Reading Pattern) (enough : 2 * source.ahead + 1 ≤ fuel)
    (sufficient : 2 * source.ahead + 1 ≤ more) (goes : ∀ yes no final last, final.ahead ≤ source.ahead →
      Walks True (flags.verbose = true) final last (next yes no) (other yes no)) :
    Walks True (flags.verbose = true) source outer
      (do
        let yes ← items flags false [] fuel
        let no ← do
          if ← accept '|' then
            let no ← items flags false [] fuel
            if (← peek) == some (.plain '|') then flaw .thirdBranch 0 else pure no
          else pure Pattern.empty
        closing start
        next yes no)
      (do
        let yes ← items flags false [] more
        let no ← do
          if ← accept '|' then
            let no ← items flags false [] more
            if (← peek) == some (.plain '|') then flaw .thirdBranch 0 else pure no
          else pure Pattern.empty
        closing place
        other yes no) := by
  have closed (yes no : Pattern) (middle within : Source) (less : middle.ahead ≤ source.ahead) :
      Walks True (flags.verbose = true) middle within (closing start >>= fun _ => next yes no)
        (closing place >>= fun _ => other yes no) :=
    walks_bind _ _ _ _ (closing_walks start place) fun _ final last fewer => goes yes no final last (by omega)
  refine walks_bind _ _ _ _ (reads.items _ _ flags false false [] _ enough sufficient) fun yes _ _ less => ?_
  refine walks_accept '|' (by decide) _ _ (fun _ _ fewer => ?_) (closed _ _ _ _ less)
  refine walks_bind _ _ _ _ (reads.items _ _ flags false false [] _ (by omega) (by omega)) fun no _ _ least => ?_
  refine walks_peek _ _ (fun token _ => ?_) (closed _ _ _ _ (by omega))
  refine walks_ite _ _ _ _ _ (fun _ => fails_walks _ _ (bind_fails _ _ (flaw_fails _ _))) fun _ => ?_
  exact closed _ _ _ _ (by omega)

theorem items_step (fuel : Nat) (reads : Reads fuel) (flags : Flags) (first other : Bool) (read : List Item)
    (more : Nat) (enough : 2 * source.ahead + 1 ≤ fuel + 1) (sufficient : 2 * source.ahead + 1 ≤ more + 1) :
    Walks True (flags.verbose = true) source outer (items flags first read (fuel + 1))
      (items flags other read (more + 1)) := by
  rw [items, items]
  refine walks_peek _ _ (fun token here => ?_) (walks_pure _)
  simp only
  split
  · exact walks_pure _
  · exact walks_pure _
  · exact walks_pure _
  refine walks_taken _ here _ _ fun after later less => ?_
  -- A token has been taken, so there is fuel enough for the rest of the row wherever it goes on.
  have next (row : List Item) (final last : Source) (fewer : final.ahead ≤ after.ahead) :
      Walks True (flags.verbose = true) final last (items flags first row fuel) (items flags other row more) :=
    reads.items _ _ _ _ _ _ _ (by omega) (by omega)
  split
  · exact walks_bind _ _ _ _ (escape_walks flags _) fun item final last fewer => next _ final last fewer
  refine walks_ite _ _ _ _ _ (fun _ => next _ _ _ (Nat.le_refl _)) fun _ => ?_
  refine walks_ite _ _ _ _ _ (fun comment => ?_) fun _ => ?_
  · refine walks_remaining _ _ fun count rest enough sufficient => ?_
    have loose : flags.verbose = true := (Bool.and_eq_true_iff.mp comment).1
    exact walks_bind _ _ _ _ (skip_line_walks loose _ _ enough sufficient) fun _ _ _ fewer => next _ _ _ fewer
  split
  · exact walks_bind _ _ _ _ (char_set_walks flags) fun _ final last fewer => next _ final last fewer
  · exact next _ _ _ (Nat.le_refl _)
  · exact next _ _ _ (Nat.le_refl _)
  · exact next _ _ _ (Nat.le_refl _)
  · refine walks_place _ _ fun here there => ?_
    refine walks_bind_read _ _ _ _ (opening_walks flags _ _ _ _) fun opening middle within begun fewer => ?_
    cases opening with
    | nothing => exact next _ _ _ fewer
    | flags given =>
      have raised := opening_raised _ _ _ _ _ _ begun given rfl
      exact walks_raised raised _ _ _ (reads.items middle within given first first read fuel (by omega) (by omega))
    | item item => exact next _ _ _ fewer
    | group inner index isAtomic =>
      have body := reads.alternatives middle within inner more (by omega) (by omega)
      refine walks_closed _ _ _ _ _ _ body fun body final last small => ?_
      cases index with
      | some index =>
        exact walks_bind _ _ _ _ (close_group_walks index body) fun _ _ _ least => next _ _ _ (by omega)
      | none => exact next _ _ _ (by omega)
    | look ahead negated =>
      refine walks_get _ _ fun same => ?_
      rw [same.behind]
      have onward (body : Pattern) (final last : Source) (small : final.ahead ≤ middle.ahead) :=
        next (⟨.look ahead negated body, .other⟩ :: read) final last (Nat.le_trans small fewer)
      refine walks_ite _ _ _ _ _ (fun _ => ?_) fun _ => look_step _ reads _ _ _ _ _ _ _ (by omega) (by omega) onward
      refine walks_bind _ _ _ _ (walks_modify _ _ rfl rfl ?_) fun _ start last small => ?_
      · exact fun same => { same with behind := by rw [same.groups] }
      · refine look_step _ reads _ _ _ _ _ _ _ (by omega) (by omega) fun body final last least => ?_
        exact onward body final last (by omega)
    | condition index =>
      refine condition_step _ reads _ _ _ _ _ _ (by omega) (by omega) fun _ _ _ _ small => ?_
      exact next _ _ _ (by omega)
  · refine walks_ite _ _ _ _ _ (fun _ => ?_) fun _ => next _ _ _ (Nat.le_refl _)
    refine walks_place _ _ fun here there => ?_
    refine walks_bind _ _ _ _ (bounds_walks _) fun bounds middle within fewer => ?_
    cases bounds with
    | none => exact next _ _ _ fewer
    | some bounds => exact walks_bind _ _ _ _ (quantified_walks _ _ _ _ _) fun _ _ _ small => next _ _ _ (by omega)

theorem reads (fuel : Nat) : Reads fuel := by
  induction fuel with
  | zero => exact ⟨fun _ _ _ _ _ _ _ _ _ => by omega, fun _ _ _ _ _ _ => by omega, fun _ _ _ _ _ _ => by omega⟩
  | succ fuel ih =>
    refine ⟨fun source outer flags first other read more enough sufficient => ?_,
      fun source outer flags more enough sufficient => ?_, fun source outer flags more enough sufficient => ?_⟩
    · obtain ⟨more, rfl⟩ : ∃ less, more = less + 1 := Nat.exists_eq_succ_of_ne_zero (by omega)
      exact items_step fuel ih flags first other read more enough sufficient
    · obtain ⟨more, rfl⟩ : ∃ less, more = less + 1 := Nat.exists_eq_succ_of_ne_zero (by omega)
      exact branches_step fuel ih flags more enough sufficient
    · obtain ⟨more, rfl⟩ : ∃ less, more = less + 1 := Nat.exists_eq_succ_of_ne_zero (by omega)
      exact alternatives_step fuel ih flags more enough sufficient

/- The whole text. Its alternatives go by the flags that were set for it, those of a group by the flags around it. -/

theorem branches_top (flags : Flags) (fuel more : Nat) (enough : 2 * source.ahead + 1 ≤ fuel)
    (sufficient : 2 * source.ahead + 1 ≤ more) : Walks True (Flags.none.verbose = true) source outer
      (branches flags true fuel) (branches .none false more) := by
  induction fuel generalizing source outer flags more with
  | zero => omega
  | succ fuel ih =>
    obtain ⟨more, rfl⟩ : ∃ less, more = less + 1 := Nat.exists_eq_succ_of_ne_zero (by omega)
    rw [branches, branches]
    refine walks_accept '|' (by decide) _ _ (fun after later less => ?_) (walks_pure [])
    refine walks_get _ _ fun _ => ?_
    have next : Walks True (Flags.none.verbose = true) after later (items after.flags false [] fuel)
        (items .none false [] more) := by
      have walks (flags : Flags) := (reads fuel).items after later flags false false [] more (by omega) (by omega)
      by_cases unset : after.flags = .none
      · rw [unset]
        exact walks .none
      · exact walks_raised unset _ _ _ (walks after.flags)
    refine walks_bind _ _ _ _ next fun next final last fewer => ?_
    have rest : Walks True (Flags.none.verbose = true) final last (branches after.flags true fuel)
        (branches .none false more) := ih _ more (by omega) (by omega)
    exact walks_bind _ _ _ _ rest fun _ _ _ _ => walks_pure _

theorem alternatives_top (fuel more : Nat) (enough : 2 * source.ahead + 2 ≤ fuel)
    (sufficient : 2 * source.ahead + 2 ≤ more) : Walks True (Flags.none.verbose = true) source outer
      (alternatives .none true fuel) (alternatives .none false more) := by
  obtain ⟨fuel, rfl⟩ : ∃ less, fuel = less + 1 := Nat.exists_eq_succ_of_ne_zero (by omega)
  obtain ⟨more, rfl⟩ : ∃ less, more = less + 1 := Nat.exists_eq_succ_of_ne_zero (by omega)
  rw [alternatives, alternatives]
  refine walks_bind _ _ _ _ ((reads fuel).items _ _ _ _ _ _ _ (by omega) (by omega)) fun first after later less => ?_
  exact walks_bind _ _ _ _ (branches_top _ fuel more (by omega) (by omega)) fun rest _ _ _ => walks_pure _

-- A source that is at a character, with nothing of the text remembered.
def Source.fresh (dialect : Dialect) (c : Char) (stop : Nat) (rest : List Char) : Source :=
  ⟨some (.plain c), stop, rest, .none, [none], [], none, [], dialect⟩

def grouped (text : List Char) : List Char := '(' :: '?' :: ':' :: text ++ [')']

-- The source behind the start of a group that takes no part in references.
theorem group_begun (dialect : Dialect) (fuel : Nat) (rest : List Char) (after : Source)
    (shifted : Source.shift (.fresh dialect ':' 3 rest) = .ok after) :
    (items .none true [] (fuel + 1)).run (.fresh dialect '(' 1 ('?' :: ':' :: rest)) =
      (do
        let body ← alternatives .none false fuel
        closing 0
        items .none true [⟨body, .other⟩] fuel).run after := by
  have opened : (opening .none 0 true).run (.fresh dialect '?' 2 (':' :: rest)) =
      .ok (.group .none none false, after) := by
    have taken : take.run (.fresh dialect ':' 3 rest) = .ok (some (.plain ':'), after) :=
      (take_ok _ _ _).mpr ⟨shifted, rfl⟩
    refine (run_bind_read (accept '?') _ _ true (.fresh dialect ':' 3 rest) rfl).trans ?_
    refine (run_bind_read take _ _ _ _ taken).trans ?_
    rfl
  rw [items]
  refine (run_bind_read peek _ _ _ _ rfl).trans ?_
  refine (run_bind_read take _ _ _ (.fresh dialect '?' 2 (':' :: rest)) rfl).trans ?_
  refine (run_bind_read place _ _ _ _ rfl).trans ?_
  refine (run_bind_read _ _ _ _ _ opened).trans ?_
  rfl

theorem group_read (dialect : Dialect) (fuel : Nat) (rest : List Char) (inside later : Source) (pattern : Pattern)
    (begun : Source.shift (.fresh dialect ':' 3 rest) = .ok inside)
    (within : (alternatives .none false (fuel + 1)).run inside = .ok (pattern, later))
    (close : later.token = some (.plain ')')) (ended : later.rest = []) :
    (alternatives .none true (fuel + 3)).run (.fresh dialect '(' 1 ('?' :: ':' :: rest)) =
      .ok (pattern, { later with token := none }) := by
  obtain ⟨token, stop, text, flags, groups, names, behind, forward, spoken⟩ := later
  cases close
  cases ended
  have row : (items .none true [] (fuel + 2)).run
      (.fresh dialect '(' 1 ('?' :: ':' :: rest)) =
        .ok (pattern, ⟨none, stop, [], flags, groups, names, behind, forward, spoken⟩) := by
    refine (group_begun dialect (fuel + 1) rest inside begun).trans ?_
    refine (run_bind_read _ _ _ _ _ within).trans ?_
    exact run_bind_read (closing 0) _ _ () ⟨none, stop, [], flags, groups, names, behind, forward, spoken⟩ rfl
  rw [alternatives]
  exact run_bind_read _ _ _ _ _ row

-- What is asked of a text when all of it has been read.
structure Finished (pattern : Pattern) (source : Source) : Prop where
  token : source.token = none
  types : (source.flags.asciiOnly && source.flags.unicode) = false
  localeless : (source.flags.asciiOnly && source.flags.locale) = false
  forward : ∀ mark ∈ source.forward, mark.1 < source.groups.length
  fits : objection? source.flags.template pattern = none

theorem whole_ok (dialect : Dialect) (fuel : Nat) (text : List Char) (pattern : Pattern) (final : Source) :
    (whole fuel).run (.begin dialect text) = .ok (pattern, final) ↔
      ∃ first, (Source.begin dialect text).shift = .ok first ∧
        (alternatives .none true fuel).run first = .ok (pattern, final) ∧ Finished pattern final := by
  unfold whole
  constructor
  · intro found
    obtain ⟨_, first, one, found⟩ := (run_bind_ok _ _ _ _ _).mp found
    obtain ⟨shifted, _⟩ := (take_ok _ _ _).mp one
    obtain ⟨body, after, two, found⟩ := (run_bind_ok _ _ _ _ _).mp found
    obtain ⟨_, _, three, found⟩ := (run_bind_ok _ _ _ _ _).mp found
    cases three
    split at found
    · cases found
    rename_i types
    split at found
    · cases found
    rename_i localeless
    split at found
    · exact (flaw_fails _ _ _ _ _ found).elim
    rename_i token
    split at found
    · cases found
    rename_i forward
    split at found
    · cases found
    rename_i fits
    cases found
    refine ⟨first, shifted, two, Option.not_isSome_iff_eq_none.mp token, eq_false_of_ne_true types,
      eq_false_of_ne_true localeless, ?_, fits⟩
    exact fun mark member => by simpa using List.find?_eq_none.mp forward mark member
  · rintro ⟨first, shifted, two, finished⟩
    refine (run_bind_read take _ _ none first ((take_ok _ _ _).mpr ⟨shifted, rfl⟩)).trans ?_
    refine (run_bind_read _ _ _ _ _ two).trans ?_
    refine (run_bind_read get _ _ _ _ rfl).trans ?_
    rw [if_neg (by simp [finished.types]), if_neg (by simp [finished.localeless]), if_neg (by simp [finished.token])]
    split
    · rename_i found
      have known := finished.forward _ (List.mem_of_find?_eq_some found)
      have late : final.groups.length ≤ _ := of_decide_eq_true (List.find?_some found :)
      exact absurd known (Nat.not_lt.mpr late)
    · rw [finished.fits]
      rfl

theorem grouped_read (dialect : Dialect) (text : List Char) (pattern : Pattern) (final : Source)
    (read : (whole (4 * text.length + 8)).run (.begin dialect text) = .ok (pattern, final))
    (unset : final.flags = .none) : readIn dialect (grouped text) = .ok pattern := by
  obtain ⟨first, shifted, body, finished⟩ := (whole_ok _ _ _ _ _).mp read
  have step := shift_shifted first shifted
  have short : first.ahead ≤ text.length := shifted_ahead first step
  let opened : Source := .fresh dialect ':' 3 (text ++ [')'])
  have alongside : Alongside (.begin dialect text) opened := ⟨rfl, rfl, rfl, rfl, rfl, rfl⟩
  obtain ⟨inside, begun, enclosed⟩ := shifted_enclosed first rfl alongside step
  obtain ⟨_, course⟩ := alternatives_top (4 * text.length + 8) (4 * text.length + 22) (by omega) (by omega) enclosed
    pattern final body
  cases course with
  | raised _ some => exact absurd unset some
  | ended may => cases may
  | carried later _ within still =>
    obtain ⟨_, here, _⟩ | ⟨_, _, close, rest⟩ := still.text
    · rw [finished.token] at here
      cases here
    have read := group_read dialect (4 * text.length + 21) (text ++ [')']) inside later pattern begun within close rest
    have length : 4 * (grouped text).length + 8 = 4 * text.length + 24 := by simp [grouped]; omega
    have outer : (whole (4 * text.length + 24)).run (.begin dialect (grouped text)) =
        .ok (pattern, { later with token := none }) := by
      refine (whole_ok _ _ _ _ _).mpr ⟨_, rfl, read, rfl, ?_, ?_, ?_, ?_⟩
      · rw [still.flags, finished.types]
      · rw [still.flags, finished.localeless]
      · intro mark member
        have same : mark.1 ∈ final.forward.map Prod.fst := still.forward ▸ List.mem_map_of_mem member
        obtain ⟨other, known, equal⟩ := List.mem_map.mp same
        rw [← equal, still.groups]
        exact finished.forward other known
      · rw [still.flags, finished.fits]
    rw [readIn, length, outer]

-- The flags that a text sets for the whole of it, where it is a pattern.
def wholeFlags (text : List Char) : Option Flags :=
  ((whole (4 * text.length + 8)).run (.begin .plain text)).toOption.map fun read => read.2.flags

theorem grouped_reads (text : List Char) (pattern : Pattern) (read : readList text = .ok pattern)
    (unset : wholeFlags text = some .none) : readList (grouped text) = .ok pattern := by
  rw [wholeFlags] at unset
  rw [readList, readIn] at read
  cases found : (whole (4 * text.length + 8)).run (.begin .plain text) with
  | error invalid =>
    rw [found] at unset
    cases unset
  | ok given =>
    obtain ⟨body, final⟩ := given
    rw [found] at read unset
    obtain rfl : body = pattern := Except.ok.inj read
    exact grouped_read .plain text body final found (Option.some.inj unset)

end

end Gatehouse.PatternText
