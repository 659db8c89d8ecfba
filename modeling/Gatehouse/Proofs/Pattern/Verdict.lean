import Gatehouse.Proofs.Pattern.Language
import Gatehouse.Proofs.PatternText.Enclosed

/- What the verdict on a value goes by: the language of the pattern alone. Neither the order of its alternatives nor how
   eagerly its repetitions go on has a part in it, and a group around the text leaves the pattern as it is. -/
namespace Gatehouse.Pattern

/-- Patterns that differ in the order of alternatives, in how eagerly repetitions that give way go on, and in the
    numbers of groups. -/
inductive Rearranged : Pattern → Pattern → Prop where
  | same (pattern : Pattern) : Rearranged pattern pattern
  | back (first second : Pattern) : Rearranged first second → Rearranged second first
  | chain (first second third : Pattern) : Rearranged first second → Rearranged second third → Rearranged first third
  | swap (first second : Pattern) : Rearranged (.alt first second) (.alt second first)
  | regroup (first second third : Pattern) :
    Rearranged (.alt first (.alt second third)) (.alt (.alt first second) third)
  | seq (first second other later : Pattern) : Rearranged first other → Rearranged second later →
    Rearranged (.seq first second) (.seq other later)
  | alt (first second other later : Pattern) : Rearranged first other → Rearranged second later →
    Rearranged (.alt first second) (.alt other later)
  | group (index number : Nat) (body other : Pattern) : Rearranged body other →
    Rearranged (.group index body) (.group number other)
  | rep (greed eager : Greed) (least : Nat) (most : Option Nat) (body other : Pattern) (one : greed ≠ .possessive)
    (two : eager ≠ .possessive) : Rearranged body other →
    Rearranged (.rep greed least most body) (.rep eager least most other)

-- Alternatives may stand in any order.
theorem choice_rearranged (first second : List Pattern) (perm : first.Perm second) :
    Rearranged (choice first) (choice second) := by
  induction perm with
  | nil => exact .same _
  | @cons head first second perm ih =>
    cases first with
    | nil =>
      rw [List.nil_perm.mp perm]
      exact .same _
    | cons next first =>
      cases second with
      | nil => cases List.perm_nil.mp perm
      | cons other second => exact .alt _ _ _ _ (.same head) ih
  | swap next head rest =>
    cases rest with
    | nil => exact .swap head next
    | cons other rest =>
      have turned (rest : Pattern) : Rearranged (.alt (.alt head next) rest) (.alt (.alt next head) rest) :=
        .alt _ _ _ _ (.swap head next) (.same rest)
      exact .chain _ _ _ (.regroup head next _) (.chain _ _ _ (turned _) (.back _ _ (.regroup next head _)))
  | trans _ _ one two => exact .chain _ _ _ one two

theorem rearranged_language (first second : Pattern) (rearranged : Rearranged first second) :
    first.language = second.language := by
  induction rearranged with
  | same pattern => rfl
  | back _ _ _ ih => exact ih.symm
  | chain _ _ _ _ _ one two => exact one.trans two
  | swap first second => exact add_comm _ _
  | regroup first second third => exact (add_assoc _ _ _).symm
  | seq first second other later _ _ one two => rw [language, language, one, two]
  | alt first second other later _ _ one two => rw [language, language, one, two]
  | group index number body other _ ih => exact ih
  | rep greed eager least most body other _ _ _ ih => rw [language, language, ih]

theorem rearranged_regular (first second : Pattern) (rearranged : Rearranged first second) :
    Regular first ↔ Regular second := by
  induction rearranged with
  | same pattern => rfl
  | back _ _ _ ih => exact ih.symm
  | chain _ _ _ _ _ one two => exact one.trans two
  | swap first second => rw [regular_alt, regular_alt, and_comm]
  | regroup first second third => rw [regular_alt, regular_alt, regular_alt, regular_alt, and_assoc]
  | seq first second other later _ _ one two => rw [regular_seq, regular_seq, one, two]
  | alt first second other later _ _ one two => rw [regular_alt, regular_alt, one, two]
  | group index number body other _ ih => rw [regular_group, regular_group, ih]
  | rep greed eager least most body other one two _ ih => simp [one, two, ih]

theorem rearranged_verdict (first second : Pattern) (regular : Regular first) (rearranged : Rearranged first second)
    (text : List Char) : second.matchesList text = first.matchesList text := by
  have one := matches_language first regular text
  have two := matches_language second ((rearranged_regular first second rearranged).mp regular) text
  rw [← rearranged_language first second rearranged] at two
  exact Bool.eq_iff_iff.mpr (two.trans one.symm)

/-- What is promised of the text of a regular pattern. Its predicate holds of the values of its language and of no
    others, each value taken as a whole; a pattern that is arranged otherwise has the same predicate; and where the text
    sets no flags for the whole of it, a group around it is read as the same pattern. -/
structure WholeValues (text : String) (pattern : Pattern) : Prop where
  language : ∀ value : String, pattern.matchesText value = true ↔ value.toList ∈ pattern.language
  rearranged : ∀ other, Rearranged pattern other → ∀ value, other.matchesText value = pattern.matchesText value
  grouped : PatternText.wholeFlags text.toList = some .none → read ("(?:" ++ text ++ ")") = .ok pattern

theorem read_grouped (text : String) (pattern : Pattern) (given : read text = .ok pattern)
    (unset : PatternText.wholeFlags text.toList = some .none) : read ("(?:" ++ text ++ ")") = .ok pattern := by
  have spelled : ("(?:" ++ text ++ ")").toList = PatternText.grouped text.toList := by
    simp [PatternText.grouped]
  rw [read, spelled]
  exact PatternText.grouped_reads text.toList pattern given unset

-- Flags for the whole of a text come too late within a group.
example : (read "(?i)a").toOption = some (.char 97 .letters) ∧
    read "(?:(?i)a)" = .error (.flawed .lateFlags (some 3)) := by decide +kernel

theorem whole_values (text : String) (pattern : Pattern) (given : read text = .ok pattern)
    (regular : Regular pattern) : WholeValues text pattern where
  language value := matches_language pattern regular value.toList
  rearranged other rearranged value := rearranged_verdict pattern other regular rearranged value.toList
  grouped := read_grouped text pattern given

-- A repetition of rounds that may take nothing, within which one goes on only where it has to.
def idleRounds : Pattern :=
  .seq (.rep .greedy 0 none (.group 1 (.alt (.char 97 .exact) (.rep .lazy 0 (some 1) (.char 98 .exact)))))
    (.char 99 .exact)

theorem idle_rounds_whole : read "(a|b??)*c" = .ok idleRounds ∧ Regular idleRounds ∧
    PatternText.wholeFlags "(a|b??)*c".toList = some .none ∧ idleRounds.matchesText "abbac" = true ∧
      idleRounds.matchesText "abbac\n" = false ∧ WholeValues "(a|b??)*c" idleRounds := by
  have given : read "(a|b??)*c" = .ok idleRounds := by decide +kernel
  have regular : Regular idleRounds := by
    simp [idleRounds, Regular.char]
  exact ⟨given, regular, by decide +kernel, by decide +kernel, by decide +kernel, whole_values _ _ given regular⟩

end Gatehouse.Pattern
