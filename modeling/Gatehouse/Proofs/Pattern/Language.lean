import Gatehouse.Pattern.Matcher
import Mathlib.Computability.Language

/- The matcher against the language of a pattern. The regular part of the patterns stands for languages; trying
   alternatives in order finds a way through a value exactly when the whole value is of the language, whatever the order
   and however eagerly a repetition goes on. Rounds that take nothing are neither needed nor gone through twice. -/
namespace Gatehouse.Pattern

-- The regular part of the patterns.
inductive Regular : Pattern → Prop where
  | empty : Regular .empty
  | char (code : Nat) (folding : Folding) : Regular (.char code folding)
  | set (chars : CharSet) : Regular (.set chars)
  | any (newlines : Bool) : Regular (.any newlines)
  | seq (first second : Pattern) : Regular first → Regular second → Regular (.seq first second)
  | alt (first second : Pattern) : Regular first → Regular second → Regular (.alt first second)
  | group (index : Nat) (body : Pattern) : Regular body → Regular (.group index body)
  | rep (greed : Greed) (least : Nat) (most : Option Nat) (body : Pattern) (yields : greed ≠ .possessive)
    (ordered : ∀ top, most = some top → least ≤ top) : Regular body → Regular (.rep greed least most body)

@[simp] theorem regular_seq (first second : Pattern) :
    Regular (.seq first second) ↔ Regular first ∧ Regular second := by
  constructor
  · intro regular
    cases regular with
    | seq _ _ one two => exact ⟨one, two⟩
  · exact fun ⟨one, two⟩ => .seq first second one two

@[simp] theorem regular_alt (first second : Pattern) :
    Regular (.alt first second) ↔ Regular first ∧ Regular second := by
  constructor
  · intro regular
    cases regular with
    | alt _ _ one two => exact ⟨one, two⟩
  · exact fun ⟨one, two⟩ => .alt first second one two

@[simp] theorem regular_group (index : Nat) (body : Pattern) : Regular (.group index body) ↔ Regular body := by
  constructor
  · intro regular
    cases regular with
    | group _ _ within => exact within
  · exact .group index body

@[simp] theorem regular_rep (greed : Greed) (least : Nat) (most : Option Nat) (body : Pattern) :
    Regular (.rep greed least most body) ↔
      greed ≠ .possessive ∧ (∀ top, most = some top → least ≤ top) ∧ Regular body := by
  constructor
  · intro regular
    cases regular with
    | rep _ _ _ _ yields ordered within => exact ⟨yields, ordered, within⟩
  · exact fun ⟨yields, ordered, within⟩ => .rep greed least most body yields ordered within

-- The values of one character that passes a test.
def single (test : Char → Bool) : Language Char := { text | ∃ c, test c = true ∧ text = [c] }

-- The values made of so many values of a language: at least `least`, and at most `most` if that is given.
def rounds (least : Nat) (most : Option Nat) (each : Language Char) : Language Char :=
  { text | ∃ count, least ≤ count ∧ (∀ top, most = some top → count ≤ top) ∧ text ∈ each ^ count }

/-- The values that a regular pattern stands for. -/
def language : Pattern → Language Char
  | .empty => 1
  | .char code folding => single (folding.same code)
  | .set chars => single chars.has
  | .any newlines => single fun c => newlines || c != '\n'
  | .seq first second => language first * language second
  | .alt first second => language first + language second
  | .group _ body => language body
  | .rep _ least most body => rounds least most (language body)
  | .anchor _ | .atomic _ | .look _ _ _ | .again _ _ _ _ | .ifGroup _ _ _ => 0

/- Ways through a pattern -/

-- A cursor after a text that follows another one.
structure Passed (cursor : Cursor) (text : List Char) (later : Cursor) : Prop where
  rest : cursor.rest = text ++ later.rest
  place : later.place = cursor.place + text.length

theorem passed_nothing (cursor : Cursor) : Passed cursor [] cursor := ⟨rfl, rfl⟩

theorem passed_append (cursor middle later : Cursor) (first second : List Char) (before : Passed cursor first middle)
    (after : Passed middle second later) : Passed cursor (first ++ second) later := by
  refine ⟨?_, ?_⟩
  · rw [before.rest, after.rest, List.append_assoc]
  · rw [after.place, before.place, List.length_append, Nat.add_assoc]

-- A way goes on after texts of a language, and after each of them that follows.
structure Takes (way : Cursor → Next → Option Cursor) (texts : Language Char) : Prop where
  sound : ∀ cursor next done, way cursor next = some done →
    ∃ text ∈ texts, ∃ later, Passed cursor text later ∧ next later = some done
  complete : ∀ cursor next text rest, cursor.rest = text ++ rest → text ∈ texts →
    (∀ later, Passed cursor text later → (next later).isSome = true) → (way cursor next).isSome = true

theorem takes_nothing : Takes (fun cursor next => next cursor) 1 where
  sound cursor next done found := ⟨[], rfl, cursor, passed_nothing cursor, found⟩
  complete cursor next text rest follows member goes := by
    obtain rfl : text = [] := member
    exact goes cursor (passed_nothing cursor)

theorem takes_single (test : Char → Bool) : Takes (fun cursor next => (cursor.take? test).bind next) (single test) where
  sound cursor next done found := by
    obtain ⟨later, taken, found⟩ := Option.bind_eq_some_iff.mp found
    unfold Cursor.take? at taken
    split at taken
    · rename_i c rest here
      split at taken
      · rename_i passes
        cases taken
        exact ⟨[c], ⟨c, passes, rfl⟩, ⟨cursor.place + 1, c :: cursor.before, rest, cursor.groups⟩, ⟨here, rfl⟩, found⟩
      · cases taken
    · cases taken
  complete cursor next text rest follows member goes := by
    obtain ⟨c, passes, rfl⟩ := member
    have here : cursor.rest = c :: rest := follows
    have taken : cursor.take? test = some ⟨cursor.place + 1, c :: cursor.before, rest, cursor.groups⟩ := by
      simp only [Cursor.take?, here, passes, if_true]
    rw [taken]
    exact goes _ ⟨here, rfl⟩

theorem takes_seq (first second : Cursor → Next → Option Cursor) (firsts seconds : Language Char)
    (before : Takes first firsts) (after : Takes second seconds) :
    Takes (fun cursor next => first cursor fun cursor => second cursor next) (firsts * seconds) where
  sound cursor next done found := by
    obtain ⟨head, member, middle, passed, found⟩ := before.sound _ _ _ found
    obtain ⟨tail, other, later, further, found⟩ := after.sound _ _ _ found
    exact ⟨head ++ tail, Language.append_mem_mul member other, later, passed_append _ _ _ _ _ passed further, found⟩
  complete cursor next text rest follows member goes := by
    obtain ⟨head, one, tail, other, rfl⟩ := Language.mem_mul.mp member
    rw [List.append_assoc] at follows
    refine before.complete cursor _ head (tail ++ rest) follows one fun middle passed => ?_
    have remaining : middle.rest = tail ++ rest := List.append_cancel_left (passed.rest.symm.trans follows)
    exact after.complete middle next tail rest remaining other fun later further =>
      goes later (passed_append _ _ _ _ _ passed further)

theorem takes_alt (first second : Cursor → Next → Option Cursor) (firsts seconds : Language Char)
    (left : Takes first firsts) (right : Takes second seconds) :
    Takes (fun cursor next => (first cursor next).or (second cursor next)) (firsts + seconds) where
  sound cursor next done found := by
    rcases Option.or_eq_some_iff.mp found with found | ⟨_, found⟩
    · obtain ⟨text, member, rest⟩ := left.sound _ _ _ found
      exact ⟨text, .inl member, rest⟩
    · obtain ⟨text, member, rest⟩ := right.sound _ _ _ found
      exact ⟨text, .inr member, rest⟩
  complete cursor next text rest follows member goes := by
    rw [Option.isSome_or, Bool.or_eq_true]
    rcases member with member | member
    · exact .inl (left.complete cursor next text rest follows member goes)
    · exact .inr (right.complete cursor next text rest follows member goes)

/- Repetition. The rounds that must be there are a row of ways; those that may be there are told by how many of them
   take something. -/

theorem takes_at_least (round : Cursor → Next → Option Cursor) (each : Language Char) (takes : Takes round each)
    (count : Nat) : Takes (fun cursor next => atLeast round next count cursor) (each ^ count) := by
  induction count with
  | zero =>
    rw [pow_zero]
    exact takes_nothing
  | succ count ih =>
    rw [pow_succ']
    exact takes_seq round _ each _ takes ih

section Further

variable (lazily : Bool) (round : Cursor → Next → Option Cursor) (next : Next) (each : Language Char)
  (takes : Takes round each)

-- One more round, where one may be begun.
def another (fuel : Nat) (room last : Option Nat) (cursor : Cursor) : Option Cursor :=
  if room == some 0 || last == some cursor.place then none
  else round cursor (further lazily round next fuel (room.map (· - 1)) (some cursor.place))

theorem further_step (fuel : Nat) (room last : Option Nat) (cursor : Cursor) :
    further lazily round next (fuel + 1) room last cursor =
      if lazily then (next cursor).or (another lazily round next fuel room last cursor)
      else (another lazily round next fuel room last cursor).or (next cursor) := by
  unfold further another
  cases lazily with
  | true => cases next cursor <;> rfl
  | false => cases (if room == some 0 || last == some cursor.place then none else _ : Option Cursor) <;> rfl

theorem further_found (fuel : Nat) (room last : Option Nat) (cursor done : Cursor)
    (found : further lazily round next (fuel + 1) room last cursor = some done) :
    next cursor = some done ∨ another lazily round next fuel room last cursor = some done := by
  rw [further_step] at found
  cases lazily with
  | true => exact (Option.or_eq_some_iff.mp found).imp_right And.right
  | false => exact ((Option.or_eq_some_iff.mp found).imp_right And.right).symm

theorem further_goes (fuel : Nat) (room last : Option Nat) (cursor : Cursor)
    (goes : (next cursor).isSome = true ∨ (another lazily round next fuel room last cursor).isSome = true) :
    (further lazily round next (fuel + 1) room last cursor).isSome = true := by
  rw [further_step]
  cases lazily <;> simpa [or_comm] using goes

include takes

theorem further_sound (fuel : Nat) (room last : Option Nat) (cursor done : Cursor)
    (found : further lazily round next fuel room last cursor = some done) :
    ∃ text ∈ rounds 0 room each, ∃ later, Passed cursor text later ∧ next later = some done := by
  induction fuel generalizing room last cursor with
  | zero => cases found
  | succ fuel ih =>
    rcases further_found lazily round next fuel room last cursor done found with stop | more
    · exact ⟨[], ⟨0, Nat.le_refl 0, fun _ _ => Nat.zero_le _, rfl⟩, cursor, passed_nothing cursor, stop⟩
    · rw [another] at more
      split at more
      · cases more
      · rename_i open'
        obtain ⟨first, member, middle, passed, more⟩ := takes.sound _ _ _ more
        obtain ⟨text, ⟨count, _, within, others⟩, later, beyond, found⟩ := ih _ _ _ more
        refine ⟨first ++ text, ⟨count + 1, Nat.zero_le _, ?_, ?_⟩, later, passed_append _ _ _ _ _ passed beyond, found⟩
        · rintro top rfl
          have less := within (top - 1) rfl
          have some : top ≠ 0 := fun none => open' (by simp [none])
          omega
        · rw [pow_succ']
          exact Language.append_mem_mul member others

-- Rounds that take something each can all be gone through, if there is room for them and none began here before.
theorem further_complete (fuel : Nat) (room last : Option Nat) (cursor : Cursor) (pieces : List (List Char))
    (rest : List Char) (members : ∀ piece ∈ pieces, piece ∈ each ∧ piece ≠ [])
    (within : ∀ top, room = some top → pieces.length ≤ top) (enough : pieces.length < fuel)
    (moved : pieces = [] ∨ last ≠ some cursor.place) (follows : cursor.rest = pieces.flatten ++ rest)
    (goes : ∀ later, Passed cursor pieces.flatten later → (next later).isSome = true) :
    (further lazily round next fuel room last cursor).isSome = true := by
  induction pieces generalizing fuel room last cursor with
  | nil =>
    obtain ⟨less, rfl⟩ := Nat.exists_eq_succ_of_ne_zero (Nat.ne_of_gt enough)
    exact further_goes _ _ _ _ _ _ _ (.inl (goes cursor (passed_nothing cursor)))
  | cons piece pieces ih =>
    obtain ⟨less, rfl⟩ := Nat.exists_eq_succ_of_ne_zero (Nat.ne_of_gt (Nat.zero_lt_of_lt enough))
    obtain ⟨member, taking⟩ := members piece (List.mem_cons_self ..)
    refine further_goes _ _ _ _ _ _ _ (.inr ?_)
    have fresh : last ≠ some cursor.place := moved.resolve_left (List.cons_ne_nil _ _)
    have free : room ≠ some 0 := fun none => absurd (within 0 none) (by simp)
    rw [another, if_neg (by simp [fresh, free])]
    rw [List.flatten_cons, List.append_assoc] at follows
    refine takes.complete cursor _ piece (pieces.flatten ++ rest) follows member fun later passed => ?_
    have onward : later.place ≠ cursor.place := by
      have grown := passed.place
      have some := List.length_pos_iff.mpr taking
      omega
    refine ih less _ _ later (fun other there => members other (List.mem_cons_of_mem _ there)) ?_
      (Nat.lt_of_succ_lt_succ enough) (.inr ?_) ?_ ?_
    · intro top same
      obtain ⟨wide, present, rfl⟩ := Option.map_eq_some_iff.mp same
      have fits := within wide present
      rw [List.length_cons] at fits
      omega
    · intro same
      exact onward (Option.some.inj same).symm
    · exact List.append_cancel_left (passed.rest.symm.trans follows)
    · intro end' further
      exact goes end' (passed_append _ _ _ _ _ passed further)

end Further

theorem pieces_short (pieces : List (List Char)) (taking : ∀ piece ∈ pieces, piece ≠ []) :
    pieces.length ≤ pieces.flatten.length := by
  induction pieces with
  | nil => exact Nat.le_refl 0
  | cons piece pieces ih =>
    have some := List.length_pos_iff.mpr (taking piece (List.mem_cons_self ..))
    have others := ih fun other there => taking other (List.mem_cons_of_mem _ there)
    rw [List.length_cons, List.flatten_cons, List.length_append]
    omega

theorem takes_further (lazily : Bool) (round : Cursor → Next → Option Cursor) (each : Language Char)
    (takes : Takes round each) (room : Option Nat) :
    Takes (fun cursor next => further lazily round next (fuelAt cursor) room none cursor) (rounds 0 room each) where
  sound cursor next done found := further_sound lazily round next each takes _ room none cursor done found
  complete cursor next text rest follows member goes := by
    obtain ⟨count, _, within, power⟩ := member
    obtain ⟨all, rfl, rfl, members⟩ := Language.mem_pow.mp power
    -- The rounds that take nothing are left out.
    let pieces := all.filter fun piece => !piece.isEmpty
    have same : pieces.flatten = all.flatten := List.flatten_filter_not_isEmpty
    have kept (piece : List Char) (there : piece ∈ pieces) : piece ∈ each ∧ piece ≠ [] := by
      obtain ⟨given, taking⟩ := List.mem_filter.mp there
      exact ⟨members piece given, by simpa using taking⟩
    have short : pieces.length ≤ cursor.rest.length := by
      have bound := pieces_short pieces fun piece there => (kept piece there).2
      rw [follows, List.length_append, ← same]
      omega
    have fewer : pieces.length ≤ all.length := List.length_filter_le _ _
    rw [← same] at follows goes
    refine further_complete lazily round next each takes _ room none cursor pieces rest kept ?_ ?_ (.inr nofun) follows
      goes
    · intro top present
      exact Nat.le_trans fewer (within top present)
    · rw [fuelAt]
      omega

theorem rounds_parted (least : Nat) (most : Option Nat) (each : Language Char)
    (ordered : ∀ top, most = some top → least ≤ top) :
    rounds least most each = each ^ least * rounds 0 (most.map (· - least)) each := by
  ext text
  constructor
  · rintro ⟨count, low, high, power⟩
    rw [← Nat.add_sub_cancel' low, pow_add] at power
    obtain ⟨first, must, others, may, rfl⟩ := Language.mem_mul.mp power
    refine Language.append_mem_mul must ⟨count - least, Nat.zero_le _, fun top same => ?_, may⟩
    obtain ⟨wide, present, rfl⟩ := Option.map_eq_some_iff.mp same
    exact Nat.sub_le_sub_right (high wide present) least
  · intro member
    obtain ⟨first, must, others, ⟨count, _, within, may⟩, rfl⟩ := Language.mem_mul.mp member
    refine ⟨least + count, Nat.le_add_right _ _, ?_, ?_⟩
    · rintro top rfl
      have less := within (top - least) rfl
      have room := ordered top rfl
      omega
    · rw [pow_add]
      exact Language.append_mem_mul must may

theorem takes_repeated (greed : Greed) (least : Nat) (most : Option Nat) (round : Cursor → Next → Option Cursor)
    (each : Language Char) (takes : Takes round each) (yields : greed ≠ .possessive)
    (ordered : ∀ top, most = some top → least ≤ top) :
    Takes (repeated greed least most round) (rounds least most each) := by
  rw [rounds_parted least most each ordered]
  have parts (lazily : Bool) := takes_seq _ _ _ _ (takes_at_least round each takes least)
    (takes_further lazily round each takes (most.map (· - least)))
  cases greed with
  | greedy => exact parts false
  | «lazy» => exact parts true
  | possessive => exact absurd rfl yields

theorem takes_group (index : Nat) (body : Cursor → Next → Option Cursor) (texts : Language Char)
    (takes : Takes body texts) : Takes (fun cursor next => body (cursor.reopen index) fun later =>
      next (later.keep cursor index)) texts where
  sound cursor next done found := by
    obtain ⟨text, member, later, passed, found⟩ := takes.sound _ _ _ found
    exact ⟨text, member, later.keep cursor index, ⟨passed.rest, passed.place⟩, found⟩
  complete cursor next text rest follows member goes :=
    takes.complete (cursor.reopen index) _ text rest follows member fun later passed =>
      goes (later.keep cursor index) ⟨passed.rest, passed.place⟩

-- A regular pattern takes the values that it stands for.
theorem run_takes (pattern : Pattern) (regular : Regular pattern) : Takes (run pattern) pattern.language := by
  induction regular with
  | empty => exact takes_nothing
  | char code folding => exact takes_single _
  | set chars => exact takes_single _
  | any newlines => exact takes_single _
  | seq first second _ _ before after => exact takes_seq (run first) (run second) _ _ before after
  | alt first second _ _ left right =>
    have same : run (.alt first second) = fun cursor next => (run first cursor next).or (run second cursor next) := by
      funext cursor next
      rw [run]
      cases run first cursor next <;> rfl
    rw [same]
    exact takes_alt _ _ _ _ left right
  | group index body _ takes => exact takes_group index (run body) _ takes
  | rep greed least most body yields ordered _ takes =>
    exact takes_repeated greed least most _ _ takes yields ordered

theorem matches_language (pattern : Pattern) (regular : Regular pattern) (text : List Char) :
    pattern.matchesList text = true ↔ text ∈ pattern.language := by
  have takes := run_takes pattern regular
  constructor
  · intro found
    obtain ⟨done, found⟩ := Option.isSome_iff_exists.mp found
    obtain ⟨taken, member, later, passed, ended⟩ := takes.sound _ _ _ found
    have finished : later.rest = [] := by
      by_contra more
      simp [more] at ended
    have whole : text = taken ++ later.rest := passed.rest
    rw [finished, List.append_nil] at whole
    exact whole ▸ member
  · intro member
    refine takes.complete _ _ text [] (List.append_nil text).symm member fun later passed => ?_
    have whole : text ++ [] = text ++ later.rest := (List.append_nil text).trans passed.rest
    rw [← List.append_cancel_left whole]
    rfl

end Gatehouse.Pattern
