import Gatehouse.Proofs.Json.RoundTrip

/- What is read of a text that a value was written as. Where the reader takes the text at all the value fits, so what
   is read is that value and no other: a value that does not fit is refused, and never taken for one that does. -/
namespace Gatehouse.Json

theorem int_written_short (fuel room : Nat) (number : Int) (rest : List Char) (found : Json × List Char)
    (closes : Closes rest) (accepted : value (fuel + 1) room (writeInt number ++ rest) = .ok found) :
    ShortInt number := by
  by_contra long
  obtain ⟨failure, refused⟩ := write_int_refused number rest (Nat.lt_of_not_le long) closes
  obtain ⟨c, tail, same, start⟩ := write_int_start number
  have begun : (∃ c tail, writeInt number ++ rest = c :: tail ∧ isDigit c = true) ∨
      ∃ c tail, writeInt number ++ rest = '-' :: c :: tail ∧ isDigit c = true := by
    rcases write_int_head number with ⟨c, tail, same, digit⟩ | ⟨c, tail, same, digit⟩
    · exact .inl ⟨c, tail ++ rest, by rw [same]; rfl, digit⟩
    · exact .inr ⟨c, tail ++ rest, by rw [same]; rfl, digit⟩
  have taken : value (fuel + 1) room (writeInt number ++ rest) = scalar (writeInt number ++ rest) := by
    rw [same]
    exact value_scalar fuel room c (tail ++ rest) start
  rw [taken, scalar_number _ begun, refused] at accepted
  cases accepted

-- The one step of the reader into a container with content.
theorem value_items_cases (fuel room : Nat) (opened : List Char) (c : Char) (tail : List Char)
    (found : Json × List Char) (skipped : skipSpace opened = c :: tail) (start : isValueStart c = true)
    (accepted : value (fuel + 1) room ('[' :: opened) = .ok found) :
    ∃ less parts, room = less + 1 ∧ itemsFrom fuel less (c :: tail) = .ok parts := by
  have other := value_start_other c ']' start rfl
  simp only [value, skipped] at accepted
  split at accepted
  · rename_i closed
    exact absurd (List.cons.inj closed).1 other
  · cases room with
    | zero => cases accepted
    | succ less =>
      obtain ⟨parts, read, _⟩ := (bind_eq_ok _ _ _).mp accepted
      exact ⟨less, parts, rfl, read⟩

theorem value_members_cases (fuel room : Nat) (opened tail : List Char) (found : Json × List Char)
    (skipped : skipSpace opened = '"' :: tail) (accepted : value (fuel + 1) room ('\x7b' :: opened) = .ok found) :
    ∃ less parts, room = less + 1 ∧ membersFrom fuel less ('"' :: tail) = .ok parts := by
  simp only [value, skipped] at accepted
  split at accepted
  · rename_i closed
    exact absurd (List.cons.inj closed).1 (by decide)
  · cases room with
    | zero => cases accepted
    | succ less =>
      obtain ⟨parts, read, _⟩ := (bind_eq_ok _ _ _).mp accepted
      exact ⟨less, parts, rfl, read⟩

-- The one step of the reader through the key of an entry, to its value and what follows it.
theorem members_entry_cases (style : Style) (lost : Binary64 → Json) (loses : style.Loses lost) (key : String)
    (json : Json) (after : List Char) (fuel room : Nat) (found : Members × List Char)
    (accepted : membersFrom (fuel + 1) room (writeString style key ++ ':' :: (write style json ++ after)) = .ok found) :
    ∃ read, value fuel room (write style json ++ after) = .ok read ∧
      ∀ continued, skipSpace read.2 = ',' :: continued →
        ∃ parts, membersFrom fuel room (skipSpace continued) = .ok parts := by
  obtain ⟨opened, begun, named⟩ := write_string_reads_back style key (':' :: (write style json ++ after))
  obtain ⟨c, tail, same, start⟩ := write_start style lost loses json
  have visible : skipSpace (write style json ++ after) = write style json ++ after := by
    rw [same]
    exact skip_space_stays c (tail ++ after) (value_start_not_space c start)
  rw [begun] at accepted
  simp only [membersFrom, named] at accepted
  obtain ⟨_, name, accepted⟩ := (bind_eq_ok _ _ _).mp accepted
  cases name
  simp only [skip_space_stays ':' _ rfl, visible] at accepted
  obtain ⟨read, first, later⟩ := (bind_eq_ok _ _ _).mp accepted
  refine ⟨read, first, fun continued comma => ?_⟩
  simp only [comma] at later
  obtain ⟨parts, listed, _⟩ := (bind_eq_ok _ _ _).mp later
  exact ⟨parts, listed⟩

section

variable (style : Style) (lost : Binary64 → Json) (loses : style.Loses lost)

include loses

mutual

theorem value_written_fits (json : Json) (fuel room : Nat) (rest : List Char) (found : Json × List Char)
    (closes : Closes rest) (enough : 2 * (write style json ++ rest).length + 1 ≤ fuel)
    (accepted : value fuel room (write style json ++ rest) = .ok found) : Fits room json := by
  obtain ⟨fuel, rfl⟩ : ∃ less, fuel = less + 1 := ⟨fuel - 1, by omega⟩
  cases json with
  | null => exact .null room
  | bool truth => exact .bool room truth
  | int number => exact .int room number (int_written_short fuel room number rest found closes accepted)
  | float number => exact .float room number
  | string text => exact .string room text
  | array items =>
    cases items with
    | nil => exact .noItems room
    | cons item more =>
      have text : write style (.array (item :: more)) ++ rest =
          '[' :: (writeItems style (item :: more) ++ ']' :: rest) := by
        simp [write]
      obtain ⟨c, tail, same, start⟩ := items_start style lost loses item more (']' :: rest)
      rw [text, List.length_cons] at enough
      rw [text, same] at accepted
      have visible := skip_space_stays c tail (value_start_not_space c start)
      obtain ⟨less, parts, rfl, read⟩ := value_items_cases fuel room _ c tail found visible start accepted
      rw [← same] at read
      exact .array less _ (items_written_fit (item :: more) fuel less rest parts (by simp) (by omega) read)
  | object members =>
    cases members with
    | nil => exact .noMembers room
    | cons member more =>
      have text : write style (.object (member :: more)) ++ rest =
          '\x7b' :: (writeMembers style (member :: more) ++ '\x7d' :: rest) := by
        simp [write]
      obtain ⟨tail, same⟩ := members_start style member.1 member.2 more ('\x7d' :: rest)
      rw [text, List.length_cons] at enough
      rw [text, same] at accepted
      obtain ⟨less, parts, rfl, read⟩ := value_members_cases fuel room _ tail found
        (skip_space_stays '"' tail rfl) accepted
      rw [← same] at read
      exact .object less _ (members_written_fit (member :: more) fuel less rest parts (by simp) (by omega) read)

theorem items_written_fit (items : List Json) (fuel room : Nat) (rest : List Char) (found : List Json × List Char)
    (nonempty : items ≠ []) (enough : 2 * (writeItems style items ++ ']' :: rest).length + 2 ≤ fuel)
    (accepted : itemsFrom fuel room (writeItems style items ++ ']' :: rest) = .ok found) :
    ∀ item ∈ items, Fits room item := by
  obtain ⟨fuel, rfl⟩ : ∃ less, fuel = less + 1 := ⟨fuel - 1, by omega⟩
  match items with
  | [] => exact absurd rfl nonempty
  | [item] =>
    rw [writeItems] at enough accepted
    rw [itemsFrom] at accepted
    obtain ⟨read, first, _⟩ := (bind_eq_ok _ _ _).mp accepted
    have fits := value_written_fits item fuel room (']' :: rest) read (closes_bracket rest) (by omega) first
    simpa using fits
  | item :: next :: more =>
    have text : writeItems style (item :: next :: more) ++ ']' :: rest =
        write style item ++ ',' :: (writeItems style (next :: more) ++ ']' :: rest) := by
      simp [writeItems]
    rw [text] at enough accepted
    rw [itemsFrom] at accepted
    obtain ⟨read, first, later⟩ := (bind_eq_ok _ _ _).mp accepted
    have fits := value_written_fits item fuel room _ read (closes_comma _) (by omega) first
    -- The item is read for what it is, so the reader goes on behind it.
    rw [value_reads_back style lost loses item fuel room _ fits (closes_comma _) (by omega)] at first
    cases first
    obtain ⟨c, tail, same, start⟩ := items_start style lost loses next more (']' :: rest)
    have visible := skip_space_stays c tail (value_start_not_space c start)
    rw [List.length_append, List.length_cons] at enough
    simp only [skip_space_stays ',' _ rfl] at later
    obtain ⟨parts, continued, _⟩ := (bind_eq_ok _ _ _).mp later
    rw [same, visible, ← same] at continued
    have others := items_written_fit (next :: more) fuel room rest parts (by simp) (by omega) continued
    exact List.forall_mem_cons.mpr ⟨fits, others⟩

theorem members_written_fit (members : Members) (fuel room : Nat) (rest : List Char) (found : Members × List Char)
    (nonempty : members ≠ []) (enough : 2 * (writeMembers style members ++ '\x7d' :: rest).length + 2 ≤ fuel)
    (accepted : membersFrom fuel room (writeMembers style members ++ '\x7d' :: rest) = .ok found) :
    AllFit room members := by
  obtain ⟨fuel, rfl⟩ : ∃ less, fuel = less + 1 := ⟨fuel - 1, by omega⟩
  match members with
  | [] => exact absurd rfl nonempty
  | [(key, json)] =>
    have text : writeMembers style [(key, json)] ++ '\x7d' :: rest =
        writeString style key ++ ':' :: (write style json ++ '\x7d' :: rest) := by
      simp [writeMembers]
    rw [text] at enough accepted
    rw [List.length_append, List.length_cons] at enough
    obtain ⟨read, first, _⟩ := members_entry_cases style lost loses key json _ fuel room found accepted
    have fits := value_written_fits json fuel room _ read (closes_brace rest) (by omega) first
    simpa [AllFit] using fits
  | (key, json) :: next :: more =>
    have text : writeMembers style ((key, json) :: next :: more) ++ '\x7d' :: rest =
        writeString style key ++ ':' :: (write style json ++
          ',' :: (writeMembers style (next :: more) ++ '\x7d' :: rest)) := by
      simp [writeMembers]
    rw [text] at enough accepted
    rw [List.length_append, List.length_cons] at enough
    obtain ⟨read, first, later⟩ := members_entry_cases style lost loses key json _ fuel room found accepted
    have fits := value_written_fits json fuel room _ read (closes_comma _) (by omega) first
    rw [value_reads_back style lost loses json fuel room _ fits (closes_comma _) (by omega)] at first
    cases first
    obtain ⟨parts, continued⟩ := later _ (skip_space_stays ',' _ rfl)
    obtain ⟨after, begun⟩ := members_start style next.1 next.2 more ('\x7d' :: rest)
    rw [begun, skip_space_stays '"' after rfl, ← begun] at continued
    rw [List.length_append, List.length_cons] at enough
    have others := members_written_fit (next :: more) fuel room rest parts (by simp) (by omega) continued
    exact List.forall_mem_cons.mpr ⟨fits, others⟩

end

-- The text of a value that is read at all is read as it was written.
theorem read_written (room : Nat) (json found : Json) (accepted : read room (json.text style) = .ok found) :
    Fits room json ∧ found = reread lost json := by
  have fits : Fits room json := by
    obtain ⟨c, tail, same, start⟩ := write_start style lost loses json
    have visible := skip_space_stays c tail (value_start_not_space c start)
    rw [read, text, String.toList_ofList] at accepted
    unfold readList at accepted
    split at accepted
    · cases accepted
    · obtain ⟨parts, taken, _⟩ := (bind_eq_ok _ _ _).mp accepted
      rw [same, visible, ← same, ← List.append_nil (write style json)] at taken
      exact value_written_fits style lost loses json _ room [] parts closes_nothing (by rw [fuelFor]; omega) taken
  exact ⟨fits, Except.ok.inj (accepted.symm.trans (read_text style lost loses json room fits))⟩

end

end Gatehouse.Json
