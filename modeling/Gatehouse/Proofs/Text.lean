import Gatehouse.Text.Blank
import Gatehouse.Text.Split
import Mathlib.Data.List.TakeWhile

/- Texts cut at a character and put together again, and texts freed of the blanks around them. -/
namespace Gatehouse.Text

theorem split_splits (mark : Char) (text : List Char) : split mark text = text.splitOn mark := by
  induction text with
  | nil => rfl
  | cons c rest ih =>
    rw [split, ih, List.splitOn_eq_splitOnP, List.splitOn_eq_splitOnP, List.splitOnP_cons_eq_if_modifyHead]
    by_cases same : c = mark
    · simp [same]
    · cases cut : rest.splitOnP (· == mark) with
      | nil => exact absurd cut (List.splitOnP_ne_nil _ rest)
      | cons first others => simp [same]

theorem split_one (mark : Char) (text : List Char) (whole : mark ∉ text) : split mark text = [text] := by
  rw [split_splits, List.splitOn_eq_splitOnP]
  exact List.splitOnP_eq_singleton fun c member => beq_false_of_ne fun same => whole (same ▸ member)

theorem split_first (mark : Char) (text rest : List Char) (whole : mark ∉ text) :
    split mark (text ++ mark :: rest) = text :: split mark rest := by
  have other : ∀ c ∈ text, (c == mark) = false := fun c member => beq_false_of_ne fun same => whole (same ▸ member)
  rw [split_splits, split_splits, List.splitOn_eq_splitOnP, List.splitOn_eq_splitOnP]
  exact List.splitOnP_append_cons_of_forall_mem other mark (beq_self_eq_true mark) rest

theorem split_joined (mark : Char) (segments : List (List Char)) (whole : ∀ segment ∈ segments, mark ∉ segment)
    (filled : segments ≠ []) : split mark ([mark].intercalate segments) = segments := by
  rw [split_splits]
  exact List.splitOn_intercalate mark whole filled

theorem joined_split (mark : Char) (text : List Char) : [mark].intercalate (split mark text) = text := by
  rw [split_splits]
  exact List.intercalate_splitOn mark

theorem split_filled (mark : Char) (text : List Char) : split mark text ≠ [] := by
  rw [split_splits, List.splitOn_eq_splitOnP]
  exact List.splitOnP_ne_nil _ text

theorem split_whole (mark : Char) (text segment : List Char) (member : segment ∈ split mark text) :
    mark ∉ segment := by
  induction text generalizing segment with
  | nil => simp_all [split]
  | cons c rest ih =>
    rw [split] at member
    by_cases same : c = mark
    · simp only [same, beq_self_eq_true, if_true, List.mem_cons] at member
      rcases member with rfl | member
      · exact List.not_mem_nil
      · exact ih segment member
    · cases cut : split mark rest with
      | nil => exact absurd cut (split_filled mark rest)
      | cons first others =>
        simp only [cut, beq_iff_eq, if_neg same, List.mem_cons] at member
        rcases member with rfl | member
        · have whole := ih first (by rw [cut]; exact List.mem_cons_self)
          simp [Ne.symm same, whole]
        · exact ih segment (by rw [cut]; exact List.mem_cons_of_mem _ member)

def Blank (text : List Char) : Prop := ∀ c ∈ text, isBlank c = true

-- No blank stands at either end.
def Tight (text : List Char) : Prop := ∀ c, text.head? = some c ∨ text.getLast? = some c → isBlank c = false

theorem drop_blank (lead text : List Char) (leading : Blank lead) :
    (lead ++ text).dropWhile isBlank = text.dropWhile isBlank :=
  List.dropWhile_append_of_pos leading

theorem drop_tight (text : List Char) (first : ∀ c, text.head? = some c → isBlank c = false) :
    text.dropWhile isBlank = text := by
  cases text with
  | nil => rfl
  | cons c rest => exact List.dropWhile_cons_of_neg (by simp [first c rfl])

theorem trim_tight (lead core trail : List Char) (leading : Blank lead) (trailing : Blank trail)
    (tight : Tight core) : trim (lead ++ core ++ trail) = core := by
  have ending : Blank trail.reverse := fun c member => trailing c (List.mem_reverse.mp member)
  cases core with
  | nil =>
    have blank : Blank (lead ++ trail) := List.forall_mem_append.mpr ⟨leading, trailing⟩
    rw [List.append_nil, trim, trimBy, ← List.append_nil (lead ++ trail), drop_blank _ _ blank]
    rfl
  | cons c rest =>
    have first : ((c :: rest) ++ trail).dropWhile isBlank = (c :: rest) ++ trail :=
      drop_tight _ fun c same => tight c (.inl same)
    have last : (c :: rest).reverse.dropWhile isBlank = (c :: rest).reverse :=
      drop_tight _ fun c same => tight c (.inr (by rw [← List.head?_reverse, same]))
    rw [trim, trimBy, List.append_assoc, drop_blank _ _ leading, first, List.reverse_append,
      drop_blank _ _ ending, last, List.reverse_reverse]

theorem trim_parts (text : List Char) :
    ∃ lead trail, Blank lead ∧ Blank trail ∧ Tight (trim text) ∧ text = lead ++ trim text ++ trail := by
  have parts : text = text.takeWhile isBlank ++ text.dropWhile isBlank := List.takeWhile_append_dropWhile.symm
  generalize rest : text.dropWhile isBlank = tail at parts
  have ends : tail = trim text ++ (tail.reverse.takeWhile isBlank).reverse := by
    rw [trim, trimBy, rest, ← List.reverse_append, List.takeWhile_append_dropWhile, List.reverse_reverse]
  refine ⟨text.takeWhile isBlank, (tail.reverse.takeWhile isBlank).reverse,
    fun c member => List.mem_takeWhile_imp member,
    fun c member => List.mem_takeWhile_imp (List.mem_reverse.mp member), fun c place => ?_, ?_⟩
  · rcases place with first | last
    · have head : tail.head? = some c := by rw [ends, List.head?_append, first, Option.some_or]
      have stops := List.head?_dropWhile_not isBlank text
      rw [rest, head] at stops
      exact stops
    · rw [trim, trimBy, rest, List.getLast?_reverse] at last
      have stops := List.head?_dropWhile_not isBlank tail.reverse
      rw [last] at stops
      exact stops
  · rw [List.append_assoc, ← ends]
    exact parts

theorem trim_nil_iff (text : List Char) : trim text = [] ↔ Blank text := by
  constructor
  · intro nothing
    obtain ⟨lead, trail, leading, trailing, _, parts⟩ := trim_parts text
    rw [parts, nothing, List.append_nil]
    exact List.forall_mem_append.mpr ⟨leading, trailing⟩
  · intro blank
    have trimmed := trim_tight text [] [] blank nofun (by simp [Tight])
    rwa [List.append_nil, List.append_nil] at trimmed

end Gatehouse.Text
