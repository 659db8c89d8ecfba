import Gatehouse.Proofs.Json.Parts
import Gatehouse.Proofs.Json.Written

/- The indented form is read as the compact one is: a part of it that is read alone is read as well behind a line
   break, and the next line break ends a number that stands before it. -/
namespace Gatehouse.Json

theorem skip_line_break (depth : Nat) (text : List Char) : skipSpace (lineBreak depth ++ text) = skipSpace text := by
  have blanks : ∀ count, skipSpace (List.replicate count ' ' ++ text) = skipSpace text := by
    intro count
    induction count with
    | zero => rfl
    | succ count ih =>
      rw [List.replicate_succ, List.cons_append]
      exact ih
  exact blanks (2 * depth)

-- A text is read from its first character on, alone and before whatever ends it.
def Opens {α : Type} (reader : Nat → Nat → List Char → Except Failure (α × List Char)) (steps room : Nat)
    (text : List Char) (found : α) : Prop :=
  ∃ c tail, isValueStart c = true ∧ text = c :: tail ∧ Rereads reader steps room (c :: tail) found

theorem opens_skipped {α : Type} (reader : Nat → Nat → List Char → Except Failure (α × List Char))
    (steps room : Nat) (text : List Char) (found : α) (opens : Opens reader steps room text found)
    (more : List Char) : skipSpace (text ++ more) = text ++ more := by
  obtain ⟨c, tail, start, rfl, _⟩ := opens
  exact skip_space_stays c (tail ++ more) (value_start_not_space c start)

theorem written_opens (style : Style) (lost : Binary64 → Json) (loses : style.Loses lost) (json : Json) (room : Nat) (fits : Fits room json) :
    Opens value 1 room (write style json) (reread lost json) := by
  have read := value_reads_back style lost loses json _ room [] fits closes_nothing (Nat.le_refl _)
  obtain ⟨c, tail, start, same, again⟩ := value_taken _ room _ _ _ read
  rw [List.append_nil, List.append_nil] at same
  exact ⟨c, tail, start, same, again⟩

theorem indented_members_more (style : Style) (depth : Nat) (key : String) (json : Json) (more : Members)
    (filled : more ≠ []) : indentedMembers style depth ((key, json) :: more) = lineBreak depth ++
      (writeString style key ++ ':' :: ' ' :: (writeIndented style depth json ++
        ',' :: indentedMembers style depth more)) := by
  obtain ⟨next, later, rfl⟩ := List.exists_cons_of_ne_nil filled
  simp [indentedMembers]

-- How the text of members begins of which the first is not the last.
theorem indented_members_begin (style : Style) (depth : Nat) (key : String) (json : Json) (more : Members)
    (filled : more ≠ []) (closing : List Char) :
    ∃ opened, skipSpace (indentedMembers style depth ((key, json) :: more) ++ closing) = '"' :: opened ∧
      ∀ opening, stringAt opening opened = .ok (key, ':' :: ' ' ::
        (writeIndented style depth json ++ ',' :: (indentedMembers style depth more ++ closing))) := by
  obtain ⟨opened, begun, named⟩ := write_string_reads_back style key (':' :: ' ' ::
    (writeIndented style depth json ++ ',' :: (indentedMembers style depth more ++ closing)))
  refine ⟨opened, ?_, named⟩
  rw [indented_members_more style depth key json more filled, List.append_assoc, skip_line_break,
    ← skip_space_stays '"' opened rfl, ← begun]
  simp

mutual

theorem indented_opens (style : Style) (lost : Binary64 → Json) (loses : style.Loses lost) (json : Json)
    (depth room : Nat) (fits : Fits room json) :
    Opens value 1 room (writeIndented style depth json) (reread lost json) := by
  cases json with
  | null | bool | int | float | string => exact written_opens style lost loses _ room fits
  | array items =>
    cases items with
    | nil => exact written_opens style lost loses (.array []) room fits
    | cons item more =>
      obtain ⟨room, rfl, every⟩ : ∃ less, room = less + 1 ∧ ∀ part ∈ item :: more, Fits less part := by
        cases fits
        exact ⟨_, rfl, by assumption⟩
      have closed : skipSpace (lineBreak depth ++ [']']) = [']'] := skip_line_break depth _
      obtain ⟨c, tail, start, skipped, again⟩ :=
        indented_items_open style lost loses (item :: more) (depth + 1) room _ (by simp) closed every
      rw [← List.append_nil tail] at skipped
      obtain ⟨own, same, whole⟩ := array_taken _ tail [] room c _ start skipped again
      rw [List.append_nil] at same
      subst same
      exact ⟨'[', _, rfl, by simp [writeIndented], whole⟩
  | object members =>
    cases members with
    | nil => exact written_opens style lost loses (.object []) room fits
    | cons member more =>
      obtain ⟨room, rfl, every⟩ : ∃ less, room = less + 1 ∧ AllFit less (member :: more) := by
        cases fits
        exact ⟨_, rfl, by assumption⟩
      have closed : skipSpace (lineBreak depth ++ ['\x7d']) = ['\x7d'] := skip_line_break depth _
      obtain ⟨tail, skipped, again⟩ :=
        indented_members_open style lost loses (member :: more) (depth + 1) room _ (by simp) closed every
      rw [← List.append_nil tail] at skipped
      obtain ⟨own, same, whole⟩ := object_taken _ tail [] room _ skipped again
      rw [List.append_nil] at same
      subst same
      exact ⟨'\x7b', _, rfl, by simp [writeIndented], whole⟩

theorem indented_items_open (style : Style) (lost : Binary64 → Json) (loses : style.Loses lost) (items : List Json)
    (depth room : Nat) (closing : List Char) (nonempty : items ≠ []) (closed : skipSpace closing = [']']) (fits : ∀ item ∈ items, Fits room item) :
    Opens itemsFrom 2 room (skipSpace (indentedItems style depth items ++ closing)) (rereadItems lost items) := by
  match items with
  | [] => exact absurd rfl nonempty
  | [item] =>
    have opens := indented_opens style lost loses item depth room (fits item List.mem_cons_self)
    have text : skipSpace (indentedItems style depth [item] ++ closing) = writeIndented style depth item ++ closing := by
      rw [indentedItems, List.append_assoc, skip_line_break, opens_skipped _ _ _ _ _ opens]
    obtain ⟨c, tail, start, same, again⟩ := opens
    obtain ⟨left, ended, whole⟩ := last_item_taken closing [] (c :: tail) room _ closed again
    rw [List.append_nil] at ended
    subst ended
    exact ⟨c, _, start, by rw [text, same]; rfl, whole⟩
  | item :: next :: more =>
    have opens := indented_opens style lost loses item depth room (fits item List.mem_cons_self)
    have text : skipSpace (indentedItems style depth (item :: next :: more) ++ closing) =
        writeIndented style depth item ++ ',' :: (indentedItems style depth (next :: more) ++ closing) := by
      rw [indentedItems, List.append_assoc, List.append_assoc, skip_line_break, opens_skipped _ _ _ _ _ opens]
      rfl
    obtain ⟨c, tail, start, same, again⟩ := opens
    obtain ⟨d, follow, _, skipped, others⟩ := indented_items_open style lost loses (next :: more) depth room closing (by simp) closed
      fun part member => fits part (List.mem_cons_of_mem _ member)
    rw [← List.append_nil follow] at skipped
    obtain ⟨left, ended, whole⟩ := more_items_taken _ _ [] (c :: tail) room _ d follow _
      (skip_space_stays ',' _ rfl) again skipped others
    rw [List.append_nil] at ended
    subst ended
    exact ⟨c, _, start, by rw [text, same]; rfl, whole⟩

theorem indented_members_open (style : Style) (lost : Binary64 → Json) (loses : style.Loses lost) (members : Members)
    (depth room : Nat) (closing : List Char) (nonempty : members ≠ []) (closed : skipSpace closing = ['\x7d']) (fits : AllFit room members) :
    ∃ tail, skipSpace (indentedMembers style depth members ++ closing) = '"' :: tail ∧
      Rereads membersFrom 2 room ('"' :: tail) (rereadMembers lost members) := by
  match members with
  | [] => exact absurd rfl nonempty
  | [(key, json)] =>
    have opens := indented_opens style lost loses json depth room (fits _ List.mem_cons_self)
    have visible := opens_skipped _ _ _ _ _ opens closing
    obtain ⟨opened, begun, named⟩ :=
      write_string_reads_back style key (':' :: ' ' :: (writeIndented style depth json ++ closing))
    have text : skipSpace (indentedMembers style depth [(key, json)] ++ closing) = '"' :: opened := by
      rw [indentedMembers, List.append_assoc, List.append_assoc, skip_line_break, ← skip_space_stays '"' opened rfl,
        ← begun]
      rfl
    obtain ⟨c, tail, start, same, again⟩ := opens
    rw [same] at named visible
    obtain ⟨own, ended, whole⟩ := last_member_taken [] opened _ _ closing [] key c tail room _ (named [])
      (skip_space_stays ':' _ rfl) visible again closed
    rw [List.append_nil] at ended
    subst ended
    exact ⟨_, text, whole⟩
  | (key, json) :: next :: more =>
    have opens := indented_opens style lost loses json depth room (fits _ List.mem_cons_self)
    obtain ⟨follow, skipped, others⟩ := indented_members_open style lost loses (next :: more) depth room closing (by simp) closed
      fun entry member => fits entry (List.mem_cons_of_mem _ member)
    have visible := opens_skipped _ _ _ _ _ opens (',' :: (indentedMembers style depth (next :: more) ++ closing))
    obtain ⟨opened, text, named⟩ := indented_members_begin style depth key json (next :: more) (by simp) closing
    obtain ⟨c, tail, start, same, again⟩ := opens
    rw [same] at named visible
    rw [← List.append_nil follow] at skipped
    obtain ⟨own, ended, whole⟩ := more_members_taken [] opened _ _ _ _ [] key c tail room _ follow _ (named [])
      (skip_space_stays ':' _ rfl) visible again (skip_space_stays ',' _ rfl) skipped others
    rw [List.append_nil] at ended
    subst ended
    exact ⟨_, text, whole⟩

end

theorem read_indented (style : Style) (lost : Binary64 → Json) (loses : style.Loses lost) (json : Json) (room : Nat)
    (fits : Fits room json) : read room (json.indentedText style) = .ok (reread lost json) := by
  obtain ⟨c, tail, start, same, again⟩ := indented_opens style lost loses json 0 room fits
  have noMark : c ≠ '\ufeff' := value_start_other c '\ufeff' start rfl
  have taken := again (fuelFor (c :: tail)) room [] ends_nothing (Nat.le_refl _) (by
    rw [fuelFor, List.append_nil]
    omega)
  rw [read, indentedText, String.toList_ofList, same]
  unfold readList
  split
  · rename_i marked
    exact absurd (List.cons.inj marked).1 noMark
  · rw [skip_space_stays c tail (value_start_not_space c start)]
    rw [List.append_nil] at taken
    rw [taken]
    rfl

/- An integer that is too long is refused wherever it stands among members. -/

-- The one step of the reader through a member that is not the last.
theorem indented_member_cases (style : Style) (depth fuel room : Nat) (key : String) (json : Json) (more : Members)
    (filled : more ≠ []) (closing : List Char) (found : Members × List Char)
    (start : ∃ c tail, writeIndented style depth json = c :: tail ∧ isValueStart c = true)
    (accepted : membersFrom (fuel + 1) room
      (skipSpace (indentedMembers style depth ((key, json) :: more) ++ closing)) = .ok found) :
    ∃ read, value fuel room (writeIndented style depth json ++ ',' :: (indentedMembers style depth more ++ closing)) =
      .ok read ∧ ∀ next, skipSpace read.2 = ',' :: next → ∃ parts, membersFrom fuel room (skipSpace next) = .ok parts := by
  obtain ⟨opened, text, named⟩ := indented_members_begin style depth key json more filled closing
  have visible : skipSpace (' ' :: (writeIndented style depth json ++
      ',' :: (indentedMembers style depth more ++ closing))) =
        writeIndented style depth json ++ ',' :: (indentedMembers style depth more ++ closing) := by
    obtain ⟨c, tail, same, begins⟩ := start
    rw [same]
    exact skip_space_stays c _ (value_start_not_space c begins)
  rw [text] at accepted
  obtain ⟨_, _, left, after, item, behind, same, read, colon, taken, last⟩ := members_cases _ _ _ _ _ accepted
  cases same
  cases (named _).symm.trans read
  cases (skip_space_stays ':' _ rfl).symm.trans colon
  rw [visible] at taken
  refine ⟨_, taken, fun next comma => ?_⟩
  rcases last with ⟨closed, _⟩ | ⟨other, later, also, continued, _⟩
  · cases closed.symm.trans comma
  · cases also.symm.trans comma
    exact ⟨_, continued⟩

theorem long_member_unread (style : Style) (lost : Binary64 → Json) (loses : style.Loses lost) (before : Members)
    (key : String) (number : Int) (after : Members) (filled : after ≠ []) (depth room fuel : Nat)
    (closing : List Char) (found : Members × List Char) (fits : AllFit room before) (long : ¬ ShortInt number)
    (enough : 2 * (indentedMembers style depth (before ++ (key, .int number) :: after) ++ closing).length + 2 ≤ fuel) :
    membersFrom fuel room (skipSpace (indentedMembers style depth (before ++ (key, .int number) :: after) ++ closing)) ≠
      .ok found := by
  intro accepted
  obtain ⟨fuel, rfl⟩ : ∃ less, fuel = less + 1 := ⟨fuel - 1, by omega⟩
  induction before generalizing fuel found with
  | nil =>
    obtain ⟨c, tail, same, start⟩ := write_int_start number
    obtain ⟨read, taken, _⟩ := indented_member_cases style depth fuel room key (.int number) after filled closing found
      ⟨c, tail, by rw [writeIndented, write, same], by simp [isValueStart, start]⟩ accepted
    obtain ⟨fuel, rfl⟩ : ∃ less, fuel = less + 1 := by
      cases fuel with
      | zero => cases taken
      | succ fuel => exact ⟨fuel, rfl⟩
    exact long (int_written_short fuel room number _ read (closes_comma _) taken)
  | cons first rest ih =>
    obtain ⟨name, json⟩ := first
    have more : rest ++ (key, .int number) :: after ≠ [] := by simp
    obtain ⟨c, tail, start, same, again⟩ :=
      indented_opens style lost loses json depth room (fits _ List.mem_cons_self)
    obtain ⟨read, taken, continued⟩ := indented_member_cases style depth fuel room name json _ more closing found
      ⟨c, tail, same, start⟩ accepted
    rw [List.cons_append, indented_members_more style depth name json _ more, same] at enough
    simp only [List.length_append, List.length_cons] at enough
    rw [same, again fuel room _ (closes_ends _ (closes_comma _)) (Nat.le_refl _) (by simp; omega)] at taken
    cases taken
    obtain ⟨parts, later⟩ := continued _ (skip_space_stays ',' _ rfl)
    obtain ⟨fuel, rfl⟩ : ∃ less, fuel = less + 1 := ⟨fuel - 1, by omega⟩
    exact ih _ (fun entry member => fits entry (List.mem_cons_of_mem _ member)) fuel (by simp; omega) later

theorem read_indented_long (style : Style) (lost : Binary64 → Json) (loses : style.Loses lost) (before : Members)
    (key : String) (number : Int) (after : Members) (filled : after ≠ []) (fits : ∀ room, AllFit room before)
    (long : ¬ ShortInt number) (room : Nat) (found : Json) :
    read room ((Json.object (before ++ (key, .int number) :: after)).indentedText style) ≠ .ok found := by
  intro accepted
  obtain ⟨⟨name, json⟩, more, whole, others⟩ : ∃ first more, before ++ (key, .int number) :: after = first :: more ∧
      more ≠ [] := by
    cases before with
    | nil => exact ⟨_, after, rfl, filled⟩
    | cons first rest => exact ⟨first, _, rfl, by simp⟩
  have text : writeIndented style 0 (.object (before ++ (key, .int number) :: after)) = '\x7b' ::
      (indentedMembers style 1 (before ++ (key, .int number) :: after) ++ (lineBreak 0 ++ ['\x7d'])) := by
    rw [whole]
    simp [writeIndented]
  obtain ⟨opened, skipped, _⟩ := indented_members_begin style 1 name json more others (lineBreak 0 ++ ['\x7d'])
  rw [← whole] at skipped
  rw [read, indentedText, String.toList_ofList, text] at accepted
  unfold readList at accepted
  obtain ⟨read, taken, _⟩ := (bind_eq_ok _ _ _).mp accepted
  rw [skip_space_stays '\x7b' _ rfl] at taken
  obtain ⟨less, parts, _, listed⟩ := value_members_cases _ _ _ opened read skipped taken
  rw [← skipped] at listed
  exact long_member_unread style lost loses before key number after filled 1 less _ _ parts (fits less) long
    (by rw [List.length_cons]; omega) listed

end Gatehouse.Json
