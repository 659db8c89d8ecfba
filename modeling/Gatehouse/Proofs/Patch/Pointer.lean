import Gatehouse.Patch.Pointer
import Gatehouse.Proofs.Text

/- Pointers as a reader of patches takes them: every segment follows a slash and is unescaped on its own. A path of
   keys is read back from the pointer that it is written as, whatever the keys contain. -/
namespace Gatehouse.Pointer

def unescapeList : List Char → Option (List Char)
  | [] => some []
  | '~' :: '0' :: rest => (unescapeList rest).map ('~' :: ·)
  | '~' :: '1' :: rest => (unescapeList rest).map ('/' :: ·)
  | '~' :: _ => none
  | c :: rest => (unescapeList rest).map (c :: ·)

def segments (text : List Char) : Option (List String) :=
  (Text.split '/' text).mapM fun segment => (unescapeList segment).map String.ofList

-- The keys that a pointer leads along; the empty pointer stands for the whole document.
def parse (pointer : String) : Option (List String) :=
  match pointer.toList with
  | [] => some []
  | '/' :: rest => segments rest
  | _ => none

def write (path : List String) : String := String.ofList (path.flatMap fun key => '/' :: escapeList key.toList)

theorem unescape_escape (key : List Char) : unescapeList (escapeList key) = some key := by
  induction key with
  | nil => rfl
  | cons c rest ih =>
    rw [escapeList, List.flatMap_cons, ← escapeList]
    by_cases tilde : c = '~'
    · subst tilde
      simp [escapeChar, unescapeList, ih]
    · by_cases slash : c = '/'
      · subst slash
        simp [escapeChar, unescapeList, ih]
      · have plain : escapeChar c = [c] := by simp [escapeChar, tilde, slash]
        simp [plain, unescapeList, ih, tilde]

theorem escaped_no_slash (key : List Char) : '/' ∉ escapeList key := by
  intro member
  obtain ⟨c, _, found⟩ := List.mem_flatMap.mp member
  by_cases tilde : c = '~'
  · simp [escapeChar, tilde] at found
  · by_cases slash : c = '/'
    · simp [escapeChar, slash] at found
    · simp only [escapeChar, beq_iff_eq, if_neg tilde, if_neg slash, List.mem_singleton] at found
      exact slash found.symm

theorem segments_written (key : String) (path : List String) :
    segments (escapeList key.toList ++ path.flatMap fun key => '/' :: escapeList key.toList) = some (key :: path) := by
  induction path generalizing key with
  | nil => simp [segments, Text.split_one _ _ (escaped_no_slash key.toList), unescape_escape]
  | cons next later ih =>
    have read := ih next
    rw [segments] at read ⊢
    rw [List.flatMap_cons, List.cons_append, Text.split_first _ _ _ (escaped_no_slash key.toList), List.mapM_cons, read,
      unescape_escape]
    simp

theorem parse_write (path : List String) : parse (write path) = some path := by
  cases path with
  | nil => rfl
  | cons key rest =>
    rw [parse, write, String.toList_ofList, List.flatMap_cons]
    exact segments_written key rest

end Gatehouse.Pointer
