import Gatehouse.Proofs.Text
import Gatehouse.Settings.Path

/- The text of a path, and the path of a text. Whatever a text names, the path is kept in one form, and the text of that
   form names the same path. -/
namespace Gatehouse.Path

-- A path as it is kept.
structure Kept (path : Path) : Prop where
  root : path.root = "" ∨ path.root = "/" ∨ path.root = "//"
  part : ∀ part ∈ path.parts, part ≠ "" ∧ part ≠ "." ∧ '/' ∉ part.toList

def partsOf (text : List Char) : List String :=
  ((Text.split '/' text).map String.ofList).filter fun part => part != "" && part != "."

def joined (parts : List String) : List Char := ['/'].intercalate (parts.map String.toList)

theorem of_text_kept (text : String) : (ofText text).Kept where
  root := by
    change rootOf text.toList = "" ∨ rootOf text.toList = "/" ∨ rootOf text.toList = "//"
    unfold rootOf
    split
    · exact .inl rfl
    · exact .inr (.inr rfl)
    · exact .inr (.inl rfl)
  part part member := by
    obtain ⟨listed, meant⟩ := List.mem_filter.mp member
    obtain ⟨segment, among, rfl⟩ := List.mem_map.mp listed
    obtain ⟨filled, moves⟩ : String.ofList segment ≠ "" ∧ String.ofList segment ≠ "." := by simpa using meant
    exact ⟨filled, moves, by simpa using Text.split_whole '/' _ segment among⟩

theorem parts_of_slash (text : List Char) : partsOf ('/' :: text) = partsOf text := by
  simp [partsOf, Text.split]

section

variable (parts : List String) (kept : ∀ part ∈ parts, part ≠ "" ∧ part ≠ "." ∧ '/' ∉ part.toList)

include kept

theorem parts_of_joined : partsOf (joined parts) = parts := by
  by_cases nothing : parts = []
  · subst nothing
    rfl
  · have whole : ∀ segment ∈ parts.map String.toList, '/' ∉ segment := by
      intro segment member
      obtain ⟨part, among, rfl⟩ := List.mem_map.mp member
      exact (kept part among).2.2
    have same : (parts.map String.toList).map String.ofList = parts := by
      simp
    rw [partsOf, joined, Text.split_joined '/' _ whole (by simpa using nothing), same]
    apply List.filter_eq_self.mpr
    intro part member
    obtain ⟨filled, moves, _⟩ := kept part member
    simp [filled, moves]

theorem joined_starts : (joined parts).takeWhile (· == '/') = [] := by
  cases parts with
  | nil => rfl
  | cons first rest =>
    obtain ⟨filled, _, whole⟩ := kept first List.mem_cons_self
    obtain ⟨c, tail, same⟩ := List.exists_cons_of_ne_nil (show first.toList ≠ [] by simpa using filled)
    have other : c ≠ '/' := fun slash => whole (by rw [same, slash]; exact List.mem_cons_self)
    cases rest with
    | nil => simp [joined, same, other]
    | cons second others => simp [joined, same, other]

end

theorem text_to_list (path : Path) (named : path.root ≠ "" ∨ path.parts ≠ []) :
    path.text.toList = path.root.toList ++ joined path.parts := by
  have other : (path.root == "" && path.parts.isEmpty) = false := by
    rcases named with named | named <;> simp [named]
  rw [text, other]
  simp [joined, String.toList_intercalate]

-- The slashes at the start are those of the root.
theorem of_text_text (path : Path) (kept : path.Kept) : ofText path.text = path := by
  by_cases here : path.root = "" ∧ path.parts = []
  · obtain ⟨root, parts⟩ := path
    obtain ⟨rfl, rfl⟩ := here
    rfl
  · have text := text_to_list path (not_and_or.mp here)
    have starts := joined_starts path.parts kept.part
    have parts := parts_of_joined path.parts kept.part
    obtain ⟨root, all⟩ := path
    have whole : ofText (Path.text ⟨root, all⟩) =
        ⟨rootOf (root.toList ++ joined all), partsOf (root.toList ++ joined all)⟩ := by
      rw [← text]
      rfl
    rcases kept.root with rfl | rfl | rfl <;> simp [whole, rootOf, starts, parts, parts_of_slash]

end Gatehouse.Path
