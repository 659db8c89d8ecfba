import Gatehouse.Proofs.Json.Members
import Gatehouse.Proofs.Json.Taken
import Mathlib.Data.List.Forall2

/- The parts of a text. A value that was read in the middle of a text is read again from the part that it took alone,
   so each member of an object has a text of its own, which is read as its value. -/
namespace Gatehouse.Json

/- One step of the reader, from what it accepted. -/

theorem items_cases (fuel room : Nat) (text rest : List Char) (items : List Json)
    (accepted : itemsFrom (fuel + 1) room text = .ok (items, rest)) :
    ∃ item behind, value fuel room text = .ok (item, behind) ∧
      ((skipSpace behind = ']' :: rest ∧ items = [item]) ∨ ∃ next later, skipSpace behind = ',' :: next ∧
        itemsFrom fuel room (skipSpace next) = .ok (later, rest) ∧ items = item :: later) := by
  unfold itemsFrom at accepted
  obtain ⟨⟨item, behind⟩, read, accepted⟩ := (bind_eq_ok _ _ _).mp accepted
  refine ⟨item, behind, read, ?_⟩
  dsimp only at accepted
  split at accepted
  · rename_i closed
    cases accepted
    exact .inl ⟨closed, rfl⟩
  · rename_i next comma
    obtain ⟨⟨later, left⟩, continued, same⟩ := (bind_eq_ok _ _ _).mp accepted
    cases same
    exact .inr ⟨next, later, comma, continued, rfl⟩
  · cases accepted

theorem members_cases (fuel room : Nat) (text rest : List Char) (members : Members)
    (accepted : membersFrom (fuel + 1) room text = .ok (members, rest)) :
    ∃ opened key left after item behind, text = '"' :: opened ∧ stringAt ('"' :: opened) opened = .ok (key, left) ∧
      skipSpace left = ':' :: after ∧ value fuel room (skipSpace after) = .ok (item, behind) ∧
      ((skipSpace behind = '\x7d' :: rest ∧ members = [(key, item)]) ∨ ∃ next later, skipSpace behind = ',' :: next ∧
        membersFrom fuel room (skipSpace next) = .ok (later, rest) ∧ members = (key, item) :: later) := by
  unfold membersFrom at accepted
  split at accepted
  · rename_i opened
    obtain ⟨⟨key, left⟩, named, accepted⟩ := (bind_eq_ok _ _ _).mp accepted
    dsimp only at accepted
    split at accepted
    · rename_i after colon
      obtain ⟨⟨item, behind⟩, read, accepted⟩ := (bind_eq_ok _ _ _).mp accepted
      refine ⟨opened, key, left, after, item, behind, rfl, named, colon, read, ?_⟩
      dsimp only at accepted
      split at accepted
      · rename_i closed
        cases accepted
        exact .inl ⟨closed, rfl⟩
      · rename_i next comma
        obtain ⟨⟨later, left⟩, continued, same⟩ := (bind_eq_ok _ _ _).mp accepted
        cases same
        exact .inr ⟨next, later, comma, continued, rfl⟩
      · cases accepted
    · cases accepted
  · cases accepted

/- The part that was taken is read alike in no less room, with fuel enough for the text from there on. -/

def Rereads {α : Type} (reader : Nat → Nat → List Char → Except Failure (α × List Char)) (steps room : Nat)
    (own : List Char) (found : α) : Prop :=
  ∀ fuel wider more, Ends more → room ≤ wider → 2 * (own ++ more).length + steps ≤ fuel →
    reader fuel wider (own ++ more) = .ok (found, more)

theorem string_value_taken (opening opened rest : List Char) (room : Nat) (found : String)
    (read : stringAt opening opened = .ok (found, rest)) :
    ∃ own, opened = own ++ rest ∧ Rereads value 1 room ('"' :: own) (.string found) := by
  obtain ⟨own, rfl, again⟩ := string_taken _ _ _ _ read
  refine ⟨own, rfl, fun fuel wider more _ _ enough => ?_⟩
  obtain ⟨fuel, rfl⟩ : ∃ less, fuel = less + 1 := ⟨fuel - 1, by omega⟩
  exact value_of_string fuel wider (own ++ more) more found (again _ more)

theorem scalar_value_taken (text rest : List Char) (room : Nat) (json : Json)
    (read : scalar text = .ok (json, rest)) :
    ∃ c tail, isValueStart c = true ∧ text = c :: (tail ++ rest) ∧ Rereads value 1 room (c :: tail) json := by
  obtain ⟨own, rfl, again⟩ := scalar_taken text rest json read
  obtain ⟨c, tail, same, start⟩ := scalar_head _ _ (again [] ends_nothing)
  rw [List.append_nil] at same
  subst same
  refine ⟨c, tail, by simp [isValueStart, start], rfl, fun fuel wider more ends _ enough => ?_⟩
  obtain ⟨fuel, rfl⟩ : ∃ less, fuel = less + 1 := ⟨fuel - 1, by omega⟩
  exact value_of_scalar fuel wider _ _ (again more ends)

/- A container whose parts are read again is read again itself. -/

theorem empty_taken (mark closing : Char) (json : Json) (opened rest : List Char) (room : Nat)
    (step : ∀ fuel room text more, skipSpace text = closing :: more →
      value (fuel + 1) room (mark :: text) = .ok (json, more))
    (closed : skipSpace opened = closing :: rest) :
    ∃ own, opened = own ++ rest ∧ Rereads value 1 room (mark :: own) json := by
  obtain ⟨blanks, rfl, visible, _⟩ := blanks_taken opened rest closing closed
  refine ⟨blanks ++ [closing], by simp, fun fuel wider more _ _ enough => ?_⟩
  obtain ⟨fuel, rfl⟩ : ∃ less, fuel = less + 1 := ⟨fuel - 1, by omega⟩
  rw [List.cons_append, List.append_assoc, List.singleton_append]
  exact step fuel wider _ more (visible more)

theorem filled_taken {α : Type} (reader : Nat → Nat → List Char → Except Failure (α × List Char)) (mark c : Char)
    (parts : α) (json : Json) (opened tail rest : List Char) (room : Nat)
    (step : ∀ fuel room text more rest, skipSpace text = c :: more → reader fuel room (c :: more) = .ok (parts, rest) →
      value (fuel + 1) (room + 1) (mark :: text) = .ok (json, rest))
    (skipped : skipSpace opened = c :: (tail ++ rest)) (again : Rereads reader 2 room (c :: tail) parts) :
    ∃ own, opened = own ++ rest ∧ Rereads value 1 (room + 1) (mark :: own) json := by
  obtain ⟨blanks, rfl, visible, _⟩ := blanks_taken _ _ _ skipped
  refine ⟨blanks ++ c :: tail, by simp, fun fuel wider more ends inside enough => ?_⟩
  obtain ⟨fuel, rfl⟩ : ∃ less, fuel = less + 1 := ⟨fuel - 1, by omega⟩
  obtain ⟨wider, rfl⟩ : ∃ less, wider = less + 1 := ⟨wider - 1, by omega⟩
  simp only [List.cons_append, List.append_assoc, List.length_cons, List.length_append] at enough ⊢
  apply step fuel wider _ (tail ++ more) more (visible _)
  exact again fuel wider more ends (by omega) (by simp; omega)

theorem array_taken (opened tail rest : List Char) (room : Nat) (c : Char) (items : List Json)
    (start : isValueStart c = true) (skipped : skipSpace opened = c :: (tail ++ rest))
    (again : Rereads itemsFrom 2 room (c :: tail) items) :
    ∃ own, opened = own ++ rest ∧ Rereads value 1 (room + 1) ('[' :: own) (.array items) := by
  apply filled_taken itemsFrom '[' c items (.array items) opened tail rest room _ skipped again
  intro fuel room text more rest visible read
  exact value_of_items fuel room text c more rest items visible start read

theorem object_taken (opened tail rest : List Char) (room : Nat) (members : Members)
    (skipped : skipSpace opened = '"' :: (tail ++ rest)) (again : Rereads membersFrom 2 room ('"' :: tail) members) :
    ∃ own, opened = own ++ rest ∧ Rereads value 1 (room + 1) ('\x7b' :: own) (.object members) := by
  apply filled_taken membersFrom '\x7b' '"' members (.object members) opened tail rest room _ skipped again
  intro fuel room text more rest visible read
  exact value_of_members fuel room text more rest members visible read

theorem last_item_taken (behind rest own : List Char) (room : Nat) (item : Json)
    (closed : skipSpace behind = ']' :: rest) (again : Rereads value 1 room own item) :
    ∃ tail, behind = tail ++ rest ∧ Rereads itemsFrom 2 room (own ++ tail) [item] := by
  obtain ⟨blanks, rfl, visible, ends⟩ := blanks_taken _ _ _ closed
  refine ⟨blanks ++ [']'], by simp, fun fuel wider more _ inside enough => ?_⟩
  obtain ⟨fuel, rfl⟩ : ∃ less, fuel = less + 1 := ⟨fuel - 1, by omega⟩
  simp only [List.append_assoc, List.singleton_append, List.length_append, List.length_cons] at enough ⊢
  have stop := ends more (closes_ends _ (closes_bracket more))
  exact items_end fuel wider _ _ more item (again fuel wider _ stop inside (by simp; omega)) (visible more)

theorem more_items_taken (behind next rest own : List Char) (room : Nat) (item : Json) (c : Char) (tail : List Char)
    (later : List Json) (comma : skipSpace behind = ',' :: next) (again : Rereads value 1 room own item)
    (skipped : skipSpace next = c :: (tail ++ rest)) (others : Rereads itemsFrom 2 room (c :: tail) later) :
    ∃ tail, behind = tail ++ rest ∧ Rereads itemsFrom 2 room (own ++ tail) (item :: later) := by
  obtain ⟨blanks, rfl, visible, ends⟩ := blanks_taken _ _ _ comma
  obtain ⟨gap, rfl, shown, _⟩ := blanks_taken _ _ _ skipped
  refine ⟨blanks ++ ',' :: (gap ++ c :: tail), by simp, fun fuel wider more closes inside enough => ?_⟩
  obtain ⟨fuel, rfl⟩ : ∃ less, fuel = less + 1 := ⟨fuel - 1, by omega⟩
  simp only [List.append_assoc, List.cons_append, List.length_append, List.length_cons] at enough ⊢
  have stop := ends (gap ++ c :: (tail ++ more)) (closes_ends _ (closes_comma _))
  refine items_continue fuel wider _ _ _ more item later (again fuel wider _ stop inside (by simp; omega)) (visible _) ?_
  rw [shown]
  exact others fuel wider more closes inside (by simp; omega)

-- What leads up to the value of a member: its name, the colon and the blanks.
theorem lead_taken (opening opened left after tail : List Char) (key : String) (c : Char)
    (named : stringAt opening opened = .ok (key, left)) (colon : skipSpace left = ':' :: after)
    (skipped : skipSpace after = c :: tail) :
    ∃ lead, opened = lead ++ c :: tail ∧ ∀ other more, ∃ left after,
      stringAt other (lead ++ c :: more) = .ok (key, left) ∧ skipSpace left = ':' :: after ∧
        skipSpace after = c :: more := by
  obtain ⟨name, rfl, again⟩ := string_taken _ _ _ _ named
  obtain ⟨blanks, rfl, visible, _⟩ := blanks_taken _ _ _ colon
  obtain ⟨gap, rfl, shown, _⟩ := blanks_taken _ _ _ skipped
  refine ⟨name ++ (blanks ++ ':' :: gap), by simp, fun other more => ?_⟩
  simp only [List.append_assoc, List.cons_append]
  exact ⟨_, _, again other _, visible _, shown _⟩

theorem last_member_taken (opening opened left after behind rest : List Char) (key : String) (c : Char)
    (tail : List Char) (room : Nat) (item : Json) (named : stringAt opening opened = .ok (key, left))
    (colon : skipSpace left = ':' :: after) (skipped : skipSpace after = c :: (tail ++ behind))
    (again : Rereads value 1 room (c :: tail) item) (closed : skipSpace behind = '\x7d' :: rest) :
    ∃ own, opened = own ++ rest ∧ Rereads membersFrom 2 room ('"' :: own) [(key, item)] := by
  obtain ⟨lead, rfl, reads⟩ := lead_taken _ _ _ _ _ _ _ named colon skipped
  obtain ⟨blanks, rfl, visible, ends⟩ := blanks_taken _ _ _ closed
  refine ⟨lead ++ c :: (tail ++ (blanks ++ ['\x7d'])), by simp, fun fuel wider more _ inside enough => ?_⟩
  obtain ⟨fuel, rfl⟩ : ∃ less, fuel = less + 1 := ⟨fuel - 1, by omega⟩
  simp only [List.append_assoc, List.cons_append, List.nil_append, List.length_append, List.length_cons] at enough ⊢
  have stop := ends more (closes_ends _ (closes_brace more))
  obtain ⟨left, after, named, colon, skipped⟩ := reads
    ('"' :: (lead ++ c :: (tail ++ (blanks ++ '\x7d' :: more)))) (tail ++ (blanks ++ '\x7d' :: more))
  refine members_end fuel wider _ left after _ more key item named colon ?_ (visible more)
  rw [skipped]
  exact again fuel wider _ stop inside (by simp; omega)

theorem more_members_taken (opening opened left after behind next rest : List Char) (key : String) (c : Char)
    (tail : List Char) (room : Nat) (item : Json) (follow : List Char) (later : Members)
    (named : stringAt opening opened = .ok (key, left)) (colon : skipSpace left = ':' :: after)
    (skipped : skipSpace after = c :: (tail ++ behind)) (again : Rereads value 1 room (c :: tail) item)
    (comma : skipSpace behind = ',' :: next) (begun : skipSpace next = '"' :: (follow ++ rest))
    (others : Rereads membersFrom 2 room ('"' :: follow) later) :
    ∃ own, opened = own ++ rest ∧ Rereads membersFrom 2 room ('"' :: own) ((key, item) :: later) := by
  obtain ⟨lead, rfl, reads⟩ := lead_taken _ _ _ _ _ _ _ named colon skipped
  obtain ⟨blanks, rfl, visible, ends⟩ := blanks_taken _ _ _ comma
  obtain ⟨gap, rfl, shown, _⟩ := blanks_taken _ _ _ begun
  refine ⟨lead ++ c :: (tail ++ (blanks ++ ',' :: (gap ++ '"' :: follow))), by simp,
    fun fuel wider more closes inside enough => ?_⟩
  obtain ⟨fuel, rfl⟩ : ∃ less, fuel = less + 1 := ⟨fuel - 1, by omega⟩
  simp only [List.append_assoc, List.cons_append, List.length_append, List.length_cons] at enough ⊢
  have stop := ends (gap ++ '"' :: (follow ++ more)) (closes_ends _ (closes_comma _))
  obtain ⟨left, after, named, colon, skipped⟩ := reads
    ('"' :: (lead ++ c :: (tail ++ (blanks ++ ',' :: (gap ++ '"' :: (follow ++ more))))))
    (tail ++ (blanks ++ ',' :: (gap ++ '"' :: (follow ++ more))))
  have comma := visible (gap ++ '"' :: (follow ++ more))
  refine members_continue fuel wider _ left after _ _ more key item later named colon ?_ comma ?_
  · rw [skipped]
    exact again fuel wider _ stop inside (by simp; omega)
  · rw [shown]
    exact others fuel wider more closes inside (by simp; omega)

-- By the fuel. Each part is read again before what is left of the container, which begins with a blank, a comma or the
-- closing mark, so a number at the end of the part still ends there.
mutual

theorem value_taken (fuel room : Nat) (text rest : List Char) (json : Json)
    (accepted : value fuel room text = .ok (json, rest)) :
    ∃ c tail, isValueStart c = true ∧ text = c :: (tail ++ rest) ∧ Rereads value 1 room (c :: tail) json := by
  cases fuel with
  | zero => cases accepted
  | succ fuel =>
    unfold value at accepted
    split at accepted
    · obtain ⟨⟨found, left⟩, read, same⟩ := (bind_eq_ok _ _ _).mp accepted
      cases same
      obtain ⟨own, rfl, again⟩ := string_value_taken _ _ _ room _ read
      exact ⟨'"', own, rfl, rfl, again⟩
    · split at accepted
      · rename_i closed
        cases accepted
        obtain ⟨own, rfl, again⟩ := empty_taken '[' ']' (.array []) _ _ room
          (fun fuel room text more closed => by simp [value, closed]) closed
        exact ⟨'[', own, rfl, rfl, again⟩
      · cases room with
        | zero => cases accepted
        | succ room =>
          obtain ⟨⟨items, left⟩, read, same⟩ := (bind_eq_ok _ _ _).mp accepted
          cases same
          obtain ⟨c, tail, start, skipped, again⟩ := items_taken fuel room _ _ _ read
          obtain ⟨own, rfl, whole⟩ := array_taken _ tail _ room c items start skipped again
          exact ⟨'[', own, rfl, rfl, whole⟩
    · split at accepted
      · rename_i closed
        cases accepted
        obtain ⟨own, rfl, again⟩ := empty_taken '\x7b' '\x7d' (.object []) _ _ room
          (fun fuel room text more closed => by simp [value, closed]) closed
        exact ⟨'\x7b', own, rfl, rfl, again⟩
      · cases room with
        | zero => cases accepted
        | succ room =>
          obtain ⟨⟨members, left⟩, read, same⟩ := (bind_eq_ok _ _ _).mp accepted
          cases same
          obtain ⟨tail, skipped, again⟩ := members_taken fuel room _ _ _ read
          obtain ⟨own, rfl, whole⟩ := object_taken _ tail _ room members skipped again
          exact ⟨'\x7b', own, rfl, rfl, whole⟩
    · exact scalar_value_taken _ _ room _ accepted

theorem items_taken (fuel room : Nat) (text rest : List Char) (items : List Json)
    (accepted : itemsFrom fuel room text = .ok (items, rest)) :
    ∃ c tail, isValueStart c = true ∧ text = c :: (tail ++ rest) ∧ Rereads itemsFrom 2 room (c :: tail) items := by
  cases fuel with
  | zero => cases accepted
  | succ fuel =>
    obtain ⟨item, behind, read, last⟩ := items_cases fuel room _ _ _ accepted
    obtain ⟨c, tail, start, rfl, again⟩ := value_taken fuel room _ _ _ read
    obtain ⟨closed, rfl⟩ | ⟨next, later, comma, continued, rfl⟩ := last
    · obtain ⟨after, rfl, whole⟩ := last_item_taken _ _ _ room item closed again
      exact ⟨c, tail ++ after, start, by simp, whole⟩
    · obtain ⟨d, follow, _, skipped, others⟩ := items_taken fuel room _ _ _ continued
      obtain ⟨after, rfl, whole⟩ := more_items_taken _ _ _ _ room item d follow later comma again skipped others
      exact ⟨c, tail ++ after, start, by simp, whole⟩

theorem members_taken (fuel room : Nat) (text rest : List Char) (members : Members)
    (accepted : membersFrom fuel room text = .ok (members, rest)) :
    ∃ tail, text = '"' :: (tail ++ rest) ∧ Rereads membersFrom 2 room ('"' :: tail) members := by
  cases fuel with
  | zero => cases accepted
  | succ fuel =>
    obtain ⟨opened, key, left, after, item, behind, rfl, named, colon, read, last⟩ :=
      members_cases fuel room _ _ _ accepted
    obtain ⟨c, tail, _, skipped, again⟩ := value_taken fuel room _ _ _ read
    obtain ⟨closed, rfl⟩ | ⟨next, later, comma, continued, rfl⟩ := last
    · obtain ⟨own, rfl, whole⟩ := last_member_taken _ _ _ _ _ _ key c tail room item named colon skipped again closed
      exact ⟨own, rfl, whole⟩
    · obtain ⟨follow, begun, others⟩ := members_taken fuel room _ _ _ continued
      obtain ⟨own, rfl, whole⟩ := more_members_taken _ _ _ _ _ _ _ key c tail room item follow later named colon
        skipped again comma begun others
      exact ⟨own, rfl, whole⟩

end

theorem own_read (room wider : Nat) (c : Char) (tail : List Char) (json : Json) (start : isValueStart c = true)
    (again : Rereads value 1 room (c :: tail) json) (within : room ≤ wider) :
    readList wider (c :: tail) = .ok json := by
  have read := again (fuelFor (c :: tail)) wider [] ends_nothing within (by simp [fuelFor])
  have noMark : c ≠ '\ufeff' := value_start_other c '\ufeff' start rfl
  rw [List.append_nil] at read
  unfold readList
  split
  · rename_i marked
    exact absurd (List.cons.inj marked).1 noMark
  · rw [skip_space_stays c tail (value_start_not_space c start), read]
    rfl

/- The text of each member of an object, as it stands in the text of the object. -/

def upTo (text rest : List Char) : List Char := text.take (text.length - rest.length)

theorem up_to_rest (own rest : List Char) : upTo (own ++ rest) rest = own := by simp [upTo]

def textsFrom : Nat → Nat → List Char → Option (List (String × List Char))
  | fuel + 1, room, '"' :: opened => do
    let (key, left) ← (stringAt ('"' :: opened) opened).toOption
    let ':' :: after := skipSpace left | none
    let start := skipSpace after
    let (_, behind) ← (value fuel room start).toOption
    match skipSpace behind with
    | ',' :: next => return (key, upTo start behind) :: (← textsFrom fuel room (skipSpace next))
    | _ => return [(key, upTo start behind)]
  | _, _, _ => none

-- Of an object that has members; there is nothing to tell of one without.
def memberTexts (room : Nat) (text : List Char) : Option (List (String × List Char)) :=
  match skipSpace text with
  | '\x7b' :: opened => textsFrom (fuelFor text - 1) (room - 1) (skipSpace opened)
  | _ => none

-- A part of the text that is read by itself as the value of the member.
structure Spells (room : Nat) (text : List Char) (part : String × List Char) (member : String × Json) : Prop where
  key : part.1 = member.1
  inside : part.2 <:+: text
  read : readList room part.2 = .ok member.2

theorem skip_space_suffix (text : List Char) : skipSpace text <:+ text := List.dropWhile_suffix isSpace

theorem spells_further (room : Nat) (text further : List Char) (part : String × List Char) (member : String × Json)
    (spells : Spells room text part member) (within : text <:+: further) : Spells room further part member :=
  ⟨spells.key, spells.inside.trans within, spells.read⟩

theorem texts_spell (fuel room wider : Nat) (text rest : List Char) (members : Members) (within : room ≤ wider)
    (accepted : membersFrom fuel room text = .ok (members, rest)) :
    ∃ parts, textsFrom fuel room text = some parts ∧ List.Forall₂ (Spells wider text) parts members := by
  induction fuel generalizing text members with
  | zero => cases accepted
  | succ fuel ih =>
    obtain ⟨opened, key, left, after, item, behind, rfl, named, colon, read, last⟩ :=
      members_cases fuel room _ _ _ accepted
    obtain ⟨c, tail, start, skipped, again⟩ := value_taken fuel room _ _ _ read
    obtain ⟨lead, rfl, _⟩ := lead_taken _ _ _ _ _ _ _ named colon skipped
    -- the value begins behind what leads up to it and ends where the rest of the members begins
    have own : upTo (c :: (tail ++ behind)) behind = c :: tail := up_to_rest (c :: tail) behind
    have inside : c :: tail <:+: '"' :: (lead ++ c :: (tail ++ behind)) := ⟨'"' :: lead, behind, by simp⟩
    have spelled : Spells wider ('"' :: (lead ++ c :: (tail ++ behind))) (key, c :: tail) (key, item) :=
      ⟨rfl, inside, own_read room wider c tail item start again within⟩
    rw [skipped] at read
    obtain ⟨closed, rfl⟩ | ⟨next, later, comma, continued, rfl⟩ := last
    · refine ⟨[(key, c :: tail)], ?_, .cons spelled .nil⟩
      simp [textsFrom, named, Except.toOption, colon, skipped, read, closed, own]
    · obtain ⟨parts, found, others⟩ := ih _ _ continued
      refine ⟨(key, c :: tail) :: parts, ?_, .cons spelled (others.imp fun part member spells => ?_)⟩
      · simp [textsFrom, named, Except.toOption, colon, skipped, read, comma, own, found]
      · refine spells_further wider _ _ part member spells ?_
        have rest : next <:+ behind := (List.suffix_cons ',' next).trans (comma ▸ skip_space_suffix behind)
        have whole : behind <:+ '"' :: (lead ++ c :: (tail ++ behind)) := ⟨'"' :: (lead ++ c :: tail), by simp⟩
        exact (((skip_space_suffix next).trans rest).trans whole).isInfix

theorem filled_object_cases (fuel room : Nat) (text rest : List Char) (members : Members) (filled : members ≠ [])
    (accepted : value (fuel + 1) room text = .ok (.object members, rest)) : ∃ opened less, text = '\x7b' :: opened ∧
      room = less + 1 ∧ membersFrom fuel less (skipSpace opened) = .ok (members, rest) := by
  unfold value at accepted
  split at accepted
  · obtain ⟨read, _, same⟩ := (bind_eq_ok _ _ _).mp accepted
    cases same
  · split at accepted
    · cases accepted
    · cases room with
      | zero => cases accepted
      | succ room =>
        obtain ⟨read, _, same⟩ := (bind_eq_ok _ _ _).mp accepted
        cases same
  · split at accepted
    · cases accepted
      exact absurd rfl filled
    · cases room with
      | zero => cases accepted
      | succ room =>
        obtain ⟨⟨found, left⟩, read, same⟩ := (bind_eq_ok _ _ _).mp accepted
        cases same
        exact ⟨_, room, rfl, rfl, read⟩
  · -- an object with members does not fit where there is no room, as a scalar does
    have fits := scalar_fits _ _ _ 0 accepted
    cases fits
    exact absurd rfl filled

theorem member_texts_spell (room : Nat) (text : List Char) (members : Members) (filled : members ≠ [])
    (accepted : readList room text = .ok (.object members)) :
    ∃ parts, memberTexts room text = some parts ∧ List.Forall₂ (Spells room text) parts members := by
  unfold readList at accepted
  split at accepted
  · cases accepted
  · obtain ⟨⟨found, after⟩, read, accepted⟩ := (bind_eq_ok _ _ _).mp accepted
    dsimp only at accepted
    split at accepted
    · cases accepted
      obtain ⟨opened, less, begun, rfl, inner⟩ := filled_object_cases _ _ _ _ _ filled read
      obtain ⟨parts, found, spelled⟩ := texts_spell _ less (less + 1) _ _ _ (Nat.le_succ less) inner
      refine ⟨parts, by rw [memberTexts, begun]; exact found, spelled.imp fun part member spells => ?_⟩
      have within : opened <:+ skipSpace text := begun ▸ List.suffix_cons _ opened
      refine spells_further _ _ _ part member spells ?_
      exact (((skip_space_suffix opened).trans within).trans (skip_space_suffix text)).isInfix
    · cases accepted

theorem spelled_keys (room : Nat) (text : List Char) (parts : List (String × List Char)) (members : Members)
    (spelled : List.Forall₂ (Spells room text) parts members) : keysOf parts = keysOf members := by
  induction spelled with
  | nil => rfl
  | cons first _ ih => rw [keys_of_cons, keys_of_cons, first.key, ih]

theorem last_text_spells (room : Nat) (text : List Char) (parts : List (String × List Char)) (members : Members)
    (spelled : List.Forall₂ (Spells room text) parts members) (key : String) (json : Json)
    (found : lastOf members key = some json) :
    ∃ own, lastOf parts key = some own ∧ Spells room text (key, own) (key, json) := by
  induction spelled with
  | nil => cases found
  | cons first rest ih =>
    rename_i part member parts members
    obtain ⟨name, own⟩ := part
    obtain ⟨other, value⟩ := member
    obtain rfl : name = other := first.key
    cases later : lastOf members key with
    | some last =>
      obtain ⟨text, located, spells⟩ := ih (by rw [lastOf, later] at found; exact later.trans found)
      exact ⟨text, by rw [lastOf, located], spells⟩
    | none =>
      have absent : lastOf parts key = none := by
        rw [last_of_none, spelled_keys room _ parts members rest]
        exact (last_of_none members key).mp later
      rw [lastOf, later] at found
      dsimp only at found
      split at found
      · rename_i same
        cases found
        obtain rfl := eq_of_beq same
        exact ⟨own, by simp [lastOf, absent], first⟩
      · cases found

end Gatehouse.Json
