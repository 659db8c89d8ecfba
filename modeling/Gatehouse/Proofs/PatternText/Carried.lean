import Gatehouse.PatternText.Grammar

/- Reading a text, and reading the same text with a closing parenthesis after it. What the one reading gives, the other
   gives, and both go on from the same place, unless flags are set for the whole of the text or a comment takes the
   parenthesis as well. The steps of a reading are compared one by one; places in the text are told in failures only. -/
namespace Gatehouse.PatternText

-- What is still ahead, the token included.
def Source.ahead (source : Source) : Nat := source.rest.length + (if source.token.isSome then 1 else 0)

-- Two readings that have come to the same but for the text, and for the places at which conditions stand.
structure Alongside (inner outer : Source) : Prop where
  flags : outer.flags = inner.flags
  groups : outer.groups = inner.groups
  names : outer.names = inner.names
  behind : outer.behind = inner.behind
  forward : outer.forward.map Prod.fst = inner.forward.map Prod.fst
  dialect : outer.dialect = inner.dialect

/-- The text of `outer` is that of `inner` with a closing parenthesis after it. -/
structure Enclosed (inner outer : Source) : Prop extends Alongside inner outer where
  text : (∃ token, inner.token = some token ∧ outer.token = some token ∧ outer.rest = inner.rest ++ [')']) ∨
    (inner.token = none ∧ inner.rest = [] ∧ outer.token = some (.plain ')') ∧ outer.rest = [])

theorem enclosed_here (inner outer : Source) (token : Token) (enclosed : Enclosed inner outer)
    (here : inner.token = some token) : outer.token = some token ∧ outer.rest = inner.rest ++ [')'] := by
  rcases enclosed.text with ⟨other, same, token, rest⟩ | ⟨none, _⟩
  · rw [here] at same
    cases same
    exact ⟨token, rest⟩
  · rw [here] at none
    cases none

/-- What becomes of the text enclosed when the text alone gives a value and is read up to `after`. -/
inductive Course {α : Type} (raises runs : Prop) (source after : Source) (value : α)
    (outcome : Except Invalid (α × Source)) : Prop where
  -- Flags have been set for the whole of the text.
  | raised (may : raises) (some : after.flags ≠ .none) (within : ∃ sample, Enclosed after sample)
  -- A comment runs up to the end of the line, and with it of the text.
  | ended (may : runs) (flags : after.flags = source.flags) (nothing : after.ahead = 0)
    (within : ∃ sample, Enclosed after sample)
  | carried (later : Source) (flags : after.flags = source.flags) (read : outcome = .ok (value, later))
    (enclosed : Enclosed after later)

-- What the first reading makes of a text, the second makes of it enclosed.
def Walks {α : Type} (raises runs : Prop) (source outer : Source) (first second : Reading α) : Prop :=
  Enclosed source outer → ∀ value after, first.run source = .ok (value, after) →
    after.ahead ≤ source.ahead ∧ Course raises runs source after value (second.run outer)

theorem run_bind_ok {α β : Type} (first : Reading α) (next : α → Reading β) (source : Source) (result : β)
    (final : Source) : (first >>= next).run source = .ok (result, final) ↔
      ∃ value after, first.run source = .ok (value, after) ∧ (next value).run after = .ok (result, final) := by
  rw [StateT.run_bind]
  cases first.run source with
  | error invalid => simp [bind, Except.bind]
  | ok pair =>
    refine ⟨fun found => ⟨pair.1, pair.2, rfl, found⟩, fun ⟨_, _, same, found⟩ => ?_⟩
    cases same
    exact found

theorem run_bind_read {α β : Type} (first : Reading α) (next : α → Reading β) (source : Source) (value : α)
    (after : Source) (read : first.run source = .ok (value, after)) :
    (first >>= next).run source = (next value).run after := by
  rw [StateT.run_bind, read]
  rfl

/- What holds of whatever a reading gives. A failure gives nothing. -/

section

variable {α β : Type} {gives : α → Source → Prop}

def Gives (gives : α → Source → Prop) (first : Reading α) : Prop :=
  ∀ source value after, first.run source = .ok (value, after) → gives value after

def Fails (first : Reading α) : Prop := Gives (fun _ _ => False) first

theorem fails_gives (first : Reading α) (fails : Fails first) : Gives gives first :=
  fun source value after found => (fails source value after found).elim

theorem gives_pure (value : α) (holds : ∀ after, gives value after) : Gives gives (pure value) := by
  intro source result after found
  cases found
  exact holds _

theorem gives_bind_known (known : β → Prop) (first : Reading β) (next : β → Reading α)
    (one : Gives (fun value _ => known value) first) (two : ∀ value, known value → Gives gives (next value)) :
    Gives gives (first >>= next) := by
  intro source result final found
  obtain ⟨value, after, read, found⟩ := (run_bind_ok _ _ _ _ _).mp found
  exact two value (one source value after read) after result final found

theorem gives_bind (first : Reading β) (next : β → Reading α) (two : ∀ value, Gives gives (next value)) :
    Gives gives (first >>= next) :=
  gives_bind_known (fun _ => True) first next (fun _ _ _ _ => trivial) fun value _ => two value

theorem gives_ite (test : Prop) [Decidable test] (first second : Reading α) (one : test → Gives gives first)
    (two : ¬test → Gives gives second) : Gives gives (if test then first else second) := by
  split
  · exact one ‹_›
  · exact two ‹_›

theorem gives_join (test : Prop) [Decidable test] (first second : Reading β) (next : β → Reading α)
    (goes : ∀ value, Gives gives (next value)) :
    Gives gives (if test then first >>= next else second >>= next) :=
  gives_ite _ _ _ (fun _ => gives_bind _ _ goes) fun _ => gives_bind _ _ goes

theorem throw_fails (invalid : Invalid) : Fails (throw invalid : Reading α) := by
  intro source value after found
  cases found

theorem flaw_fails (wrong : Flaw) (back : Nat) : Fails (flaw wrong back : Reading α) :=
  gives_bind _ _ fun _ => throw_fails _

theorem flaw_at_fails (wrong : Flaw) (here : Nat) : Fails (flawAt wrong here : Reading α) := throw_fails _

theorem bind_fails (first : Reading β) (next : β → Reading α) (fails : Fails first) : Fails (first >>= next) :=
  gives_bind_known (fun _ => False) first next fails fun _ never => never.elim

end

section

variable {α β : Type} {raises runs : Prop} {source outer : Source}

theorem course_raised (after : Source) (value : α) (outcome : Except Invalid (α × Source))
    (some : source.flags ≠ .none) (course : Course raises runs source after value outcome) : after.flags ≠ .none := by
  cases course with
  | raised _ some _ => exact some
  | ended _ flags _ _ => exact flags ▸ some
  | carried _ flags _ _ => exact flags ▸ some

theorem course_within (after : Source) (value : α) (outcome : Except Invalid (α × Source))
    (course : Course raises runs source after value outcome) : ∃ sample, Enclosed after sample := by
  cases course with
  | raised _ _ within => exact within
  | ended _ _ _ within => exact within
  | carried later _ _ enclosed => exact ⟨later, enclosed⟩

-- What is read next, after whatever has become of the first.
theorem course_onward (value : α) (after : Source) (second : Reading α) (next : Reading β) (other : α → Reading β)
    (result : β) (final : Source) (course : Course raises runs source after value (second.run outer))
    (goes : ∀ later, Walks raises runs after later next (other value)) (found : next.run after = .ok (result, final)) :
    final.ahead ≤ after.ahead ∧ Course raises runs source final result ((second >>= other).run outer) := by
  cases course with
  | raised may some within =>
    obtain ⟨sample, within⟩ := within
    obtain ⟨less, course⟩ := goes sample within result final found
    exact ⟨less, .raised may (course_raised final result _ some course) (course_within final result _ course)⟩
  | ended may flags nothing within =>
    obtain ⟨sample, within⟩ := within
    obtain ⟨less, course⟩ := goes sample within result final found
    have still := course_within final result _ course
    refine ⟨less, ?_⟩
    cases course with
    | raised may some _ => exact .raised may some still
    | ended _ same _ _ => exact .ended may (same.trans flags) (by omega) still
    | carried _ same _ _ => exact .ended may (same.trans flags) (by omega) still
  | carried later flags read enclosed =>
    obtain ⟨less, course⟩ := goes later enclosed result final found
    rw [run_bind_read second other outer value later read]
    refine ⟨less, ?_⟩
    cases course with
    | raised may some within => exact .raised may some within
    | ended may same nothing within => exact .ended may (same.trans flags) nothing within
    | carried last same going ended => exact .carried last (same.trans flags) going ended

theorem walks_pure (value : α) : Walks raises runs source outer (pure value) (pure value) := by
  intro enclosed result final found
  cases found
  exact ⟨Nat.le_refl _, .carried outer rfl rfl enclosed⟩

-- What does not look at the text.
theorem walks_lift (outcome : Except Invalid α) :
    Walks raises runs source outer (liftM outcome : Reading α) (liftM outcome : Reading α) := by
  cases outcome with
  | error invalid =>
    intro _ value after found
    cases found
  | ok value => exact walks_pure value

theorem walks_bind_read (first second : Reading α) (next other : α → Reading β)
    (begun : Walks raises runs source outer first second)
    (goes : ∀ value after later, first.run source = .ok (value, after) → after.ahead ≤ source.ahead →
      Walks raises runs after later (next value) (other value)) :
    Walks raises runs source outer (first >>= next) (second >>= other) := by
  intro enclosed result final found
  obtain ⟨value, after, one, two⟩ := (run_bind_ok _ _ _ _ _).mp found
  obtain ⟨less, course⟩ := begun enclosed value after one
  obtain ⟨fewer, onward⟩ := course_onward _ _ _ _ _ _ _ course (fun later => goes value after later one less) two
  exact ⟨Nat.le_trans fewer less, onward⟩

theorem walks_bind (first second : Reading α) (next other : α → Reading β)
    (begun : Walks raises runs source outer first second)
    (goes : ∀ value after later, after.ahead ≤ source.ahead →
      Walks raises runs after later (next value) (other value)) :
    Walks raises runs source outer (first >>= next) (second >>= other) :=
  walks_bind_read first second next other begun fun value after later _ => goes value after later

-- What never succeeds is carried to anything.
theorem fails_walks (first second : Reading α) (fails : Fails first) : Walks raises runs source outer first second :=
  fun _ value after found => absurd found (fails source value after)

theorem walks_flaw (wrong : Flaw) (back : Nat) (second : Reading α) :
    Walks raises runs source outer (flaw wrong back) second :=
  fails_walks _ _ (flaw_fails wrong back)

theorem walks_flaw_at (wrong : Flaw) (here : Nat) (second : Reading α) :
    Walks raises runs source outer (flawAt wrong here) second :=
  fails_walks _ _ (flaw_at_fails wrong here)

/- What is read and changed beside the text -/

theorem walks_ite {γ : Type} (test : Prop) [Decidable test] (yes no other otherwise : Reading γ)
    (holds : test → Walks raises runs source outer yes other)
    (fails : ¬test → Walks raises runs source outer no otherwise) :
    Walks raises runs source outer (if test then yes else no) (if test then other else otherwise) := by
  split
  · exact holds ‹_›
  · exact fails ‹_›

-- A choice with a common continuation.
theorem walks_join {γ : Type} (test : Prop) [Decidable test] (first second : Reading γ) (next other : γ → Reading β)
    (one : Walks raises runs source outer first first) (two : Walks raises runs source outer second second)
    (goes : ∀ value after later, after.ahead ≤ source.ahead →
      Walks raises runs after later (next value) (other value)) :
    Walks raises runs source outer (if test then first >>= next else second >>= next)
      (if test then first >>= other else second >>= other) :=
  walks_ite _ _ _ _ _ (fun _ => walks_bind _ _ _ _ one goes) fun _ => walks_bind _ _ _ _ two goes

theorem walks_get (next other : Source → Reading β)
    (goes : Enclosed source outer → Walks raises runs source outer (next source) (other outer)) :
    Walks raises runs source outer (get >>= next) (get >>= other) :=
  fun enclosed => goes enclosed enclosed

theorem walks_set (within without : Source) (next other : Reading β) (flags : within.flags = source.flags)
    (ahead : within.ahead = source.ahead) (enclosed : Enclosed source outer → Enclosed within without)
    (goes : ∀ later, Walks raises runs within later next other) :
    Walks raises runs source outer (set within >>= fun _ => next) (set without >>= fun _ => other) := by
  intro given result final found
  have course : Course raises runs source within PUnit.unit ((set without : Reading Unit).run outer) :=
    .carried without flags rfl (enclosed given)
  obtain ⟨less, onward⟩ := course_onward _ _ _ _ (fun _ => other) _ _ course goes found
  exact ⟨ahead ▸ less, onward⟩

theorem walks_asked (ask : Source → α) (same : Enclosed source outer → ask outer = ask source) :
    Walks raises runs source outer (do return ask (← get)) (do return ask (← get)) := by
  refine walks_get _ _ fun enclosed => ?_
  rw [same enclosed]
  exact walks_pure _

theorem walks_place (next other : Nat → Reading β)
    (goes : ∀ here there, Walks raises runs source outer (next here) (other there)) :
    Walks raises runs source outer (place >>= next) (place >>= other) :=
  walks_get (fun source => next source.place) (fun source => other source.place) fun _ => goes source.place outer.place

theorem remaining_enough (enclosed : Enclosed source outer) :
    source.ahead < source.rest.length + 2 ∧ source.ahead < outer.rest.length + 2 := by
  have bound : source.ahead < source.rest.length + 2 := by
    rw [Source.ahead]
    split <;> omega
  refine ⟨bound, ?_⟩
  rcases enclosed.text with ⟨_, _, _, rest⟩ | ⟨token, rest, _, _⟩
  · rw [rest, List.length_append]
    omega
  · rw [Source.ahead, token, rest]
    simp

theorem walks_remaining (next other : Nat → Reading β)
    (goes : ∀ count more, source.ahead < count → source.ahead < more →
      Walks raises runs source outer (next count) (other more)) :
    Walks raises runs source outer (remaining >>= next) (remaining >>= other) :=
  walks_get (fun source => next (source.rest.length + 2)) (fun source => other (source.rest.length + 2))
    fun enclosed => goes _ _ (remaining_enough enclosed).1 (remaining_enough enclosed).2

theorem walks_modify (change other : Source → Source) (flags : (change source).flags = source.flags)
    (ahead : (change source).ahead = source.ahead)
    (goes : Enclosed source outer → Enclosed (change source) (other outer)) :
    Walks raises runs source outer (modify change) (modify other) := by
  intro enclosed result final found
  cases found
  exact ⟨Nat.le_of_eq ahead, .carried (other outer) flags rfl (goes enclosed)⟩

/- Tokens -/

theorem shift_plain (c : Char) (rest : List Char) (here : source.rest = c :: rest) (unescaped : c ≠ '\\') :
    source.shift = .ok { source with token := some (.plain c), stop := source.stop + 1, rest := rest } := by
  rw [Source.shift, here]
  split
  · rename_i same
    cases same
  · rename_i same
    exact absurd (List.cons.inj same).1 unescaped
  · rename_i same
    exact absurd (List.cons.inj same).1 unescaped
  · rename_i same
    cases same
    rfl

-- A token that is passed.
inductive Shifted (source : Source) : Source → Prop where
  | ended (finished : source.rest = []) : Shifted source { source with token := none }
  | escaped (c : Char) (rest : List Char) (here : source.rest = '\\' :: c :: rest) :
    Shifted source { source with token := some (.escaped c), stop := source.stop + 2, rest := rest }
  | plain (c : Char) (rest : List Char) (unescaped : c ≠ '\\') (here : source.rest = c :: rest) :
    Shifted source { source with token := some (.plain c), stop := source.stop + 1, rest := rest }

theorem shift_shifted (after : Source) (shifted : source.shift = .ok after) : Shifted source after := by
  cases here : source.rest with
  | nil =>
    rw [Source.shift, here] at shifted
    cases shifted
    rw [← here]
    exact .ended here
  | cons c rest =>
    by_cases escape : c = '\\'
    · subst escape
      cases rest with
      | nil =>
        rw [Source.shift, here] at shifted
        cases shifted
      | cons c rest =>
        rw [Source.shift, here] at shifted
        cases shifted
        exact .escaped c rest here
    · rw [shift_plain c rest here escape] at shifted
      cases shifted
      exact .plain c rest escape here

theorem shifted_ahead (after : Source) (shifted : Shifted source after) : after.ahead ≤ source.rest.length := by
  cases shifted with
  | ended finished => simp [Source.ahead, finished]
  | escaped c rest here => simp [Source.ahead, here]
  | plain c rest _ here => simp [Source.ahead, here]

theorem shifted_flags (after : Source) (shifted : Shifted source after) : after.flags = source.flags := by
  cases shifted <;> rfl

theorem shifted_enclosed (after : Source) (rest : outer.rest = source.rest ++ [')'])
    (alongside : Alongside source outer) (shifted : Shifted source after) :
    ∃ later, outer.shift = .ok later ∧ Enclosed after later := by
  cases shifted with
  | ended finished =>
    have last : outer.rest = [')'] := by rw [rest, finished, List.nil_append]
    exact ⟨_, shift_plain _ _ last (by decide), { alongside with text := .inr ⟨rfl, finished, rfl, rfl⟩ }⟩
  | escaped c more here =>
    have next : outer.rest = '\\' :: c :: (more ++ [')']) := by rw [rest, here, List.cons_append, List.cons_append]
    refine ⟨{ outer with token := some (.escaped c), stop := outer.stop + 2, rest := more ++ [')'] }, ?_,
      { alongside with text := .inl ⟨.escaped c, rfl, rfl, rfl⟩ }⟩
    rw [Source.shift, next]
    rfl
  | plain c more unescaped here =>
    have next : outer.rest = c :: (more ++ [')']) := by rw [rest, here, List.cons_append]
    exact ⟨_, shift_plain _ _ next unescaped, { alongside with text := .inl ⟨.plain c, rfl, rfl, rfl⟩ }⟩

theorem take_runs (source : Source) : take.run source = source.shift.map fun after => (source.token, after) := by
  unfold take
  simp only [StateT.run_bind, StateT.run_get, pure_bind]
  cases source.shift <;> rfl

theorem take_ok (source after : Source) (taken : Option Token) :
    take.run source = .ok (taken, after) ↔ source.shift = .ok after ∧ taken = source.token := by
  rw [take_runs]
  cases source.shift with
  | error invalid => simp [Except.map]
  | ok next =>
    simp only [Except.map, Except.ok.injEq, Prod.mk.injEq]
    exact ⟨fun ⟨same, next⟩ => ⟨next, same.symm⟩, fun ⟨next, same⟩ => ⟨same.symm, next⟩⟩

-- A token that is there is passed in both texts.
theorem walks_taken (token : Token) (here : source.token = some token) (next other : Option Token → Reading β)
    (goes : ∀ after later, after.ahead < source.ahead →
      Walks raises runs after later (next (some token)) (other (some token))) :
    Walks raises runs source outer (take >>= next) (take >>= other) := by
  intro enclosed result final found
  obtain ⟨taken, after, one, two⟩ := (run_bind_ok _ _ _ _ _).mp found
  obtain ⟨shifted, rfl⟩ := (take_ok _ _ _).mp one
  rw [here] at two
  have step := shift_shifted after shifted
  have less : after.ahead < source.ahead := by
    have bound := shifted_ahead after step
    have whole : source.ahead = source.rest.length + 1 := by simp [Source.ahead, here]
    omega
  obtain ⟨same, rest⟩ := enclosed_here source outer token enclosed here
  obtain ⟨later, passes, within⟩ := shifted_enclosed after rest enclosed.toAlongside step
  have course : Course raises runs source after (some token) (take.run outer) :=
    .carried later (shifted_flags after step) ((take_ok _ _ _).mpr ⟨passes, same.symm⟩) within
  obtain ⟨fewer, onward⟩ := course_onward _ _ _ _ _ _ _ course (fun later => goes after later less) two
  exact ⟨by omega, onward⟩

theorem walks_take (next other : Option Token → Reading β) (fails : Fails (next none))
    (goes : ∀ token after later, after.ahead < source.ahead →
      Walks raises runs after later (next (some token)) (other (some token))) :
    Walks raises runs source outer (take >>= next) (take >>= other) := by
  cases here : source.token with
  | some token => exact walks_taken token here next other (goes token)
  | none =>
    intro enclosed result final found
    obtain ⟨taken, after, one, two⟩ := (run_bind_ok _ _ _ _ _).mp found
    obtain ⟨_, rfl⟩ := (take_ok _ _ _).mp one
    rw [here] at two
    exact (fails after result final two).elim

theorem peek_runs (source : Source) : peek.run source = .ok (source.token, source) := rfl

-- Where the text ends, the closing parenthesis stands after it.
theorem walks_peek (next other : Option Token → Reading β)
    (goes : ∀ token, source.token = some token →
      Walks raises runs source outer (next (some token)) (other (some token)))
    (ended : Walks raises runs source outer (next none) (other (some (.plain ')')))) :
    Walks raises runs source outer (peek >>= next) (peek >>= other) := by
  refine walks_get (fun source => next source.token) (fun source => other source.token) fun enclosed => ?_
  rcases enclosed.text with ⟨token, here, same, _⟩ | ⟨none, _, close, _⟩
  · rw [here, same]
    exact goes token here
  · rw [none, close]
    exact ended

theorem accept_bind (c : Char) (next : Bool → Reading β) : (accept c >>= next) = peek >>= fun token =>
    if token == some (.plain c) then take >>= fun _ => next true else next false := by
  unfold accept
  rw [bind_assoc]
  congr 1
  funext token
  split
  · rw [bind_assoc]
    rfl
  · rfl

theorem walks_accept (c : Char) (opens : c ≠ ')') (next other : Bool → Reading β)
    (yes : ∀ after later, after.ahead < source.ahead → Walks raises runs after later (next true) (other true))
    (no : Walks raises runs source outer (next false) (other false)) :
    Walks raises runs source outer (accept c >>= next) (accept c >>= other) := by
  rw [accept_bind, accept_bind]
  refine walks_peek _ _ (fun token here => walks_ite _ _ _ _ _ (fun _ => ?_) fun _ => no) ?_
  · exact walks_taken token here _ _ yes
  · have apart : ¬(some (Token.plain ')') == some (.plain c)) = true := by simpa using Ne.symm opens
    rw [if_neg apart]
    exact no

theorem accept_walks (c : Char) (opens : c ≠ ')') : Walks raises runs source outer (accept c) (accept c) := by
  have same : accept c = accept c >>= pure := (bind_pure _).symm
  rw [same]
  exact walks_accept c opens _ _ (fun _ _ _ => walks_pure true) (walks_pure false)

end

end Gatehouse.PatternText
