import Gatehouse.Proofs.Json.Number
import Gatehouse.Proofs.Json.Text

/- JSON text reads back as the value it was written from, in every style, when the value fits the room and its
   integers are as short as the reader takes them. Only the numbers that are not finite may come back as something
   else, and a style says as what. A value that was read fits the room it was read in, so it can be written and read
   again. -/
namespace Gatehouse.Json

/- What the reader has room for: containers with content nested no deeper than the room, and short integers. -/

def ShortInt (value : Int) : Prop := (Decimal.numeral value.natAbs).length ≤ digitLimit

inductive Fits : Nat → Json → Prop where
  | null (room : Nat) : Fits room .null
  | bool (room : Nat) (value : Bool) : Fits room (.bool value)
  | int (room : Nat) (value : Int) (short : ShortInt value) : Fits room (.int value)
  | float (room : Nat) (value : Binary64) : Fits room (.float value)
  | string (room : Nat) (text : String) : Fits room (.string text)
  | noItems (room : Nat) : Fits room (.array [])
  | noMembers (room : Nat) : Fits room (.object [])
  | array (room : Nat) (items : List Json) (every : ∀ item ∈ items, Fits room item) : Fits (room + 1) (.array items)
  | object (room : Nat) (members : Members) (every : ∀ entry ∈ members, Fits room entry.2) :
    Fits (room + 1) (.object members)

def AllFit (room : Nat) (members : Members) : Prop := ∀ entry ∈ members, Fits room entry.2

attribute [simp] Fits.null Fits.bool Fits.float Fits.string

@[simp] theorem fits_array (room : Nat) (items : List Json) :
    Fits (room + 1) (.array items) ↔ ∀ item ∈ items, Fits room item := by
  constructor
  · intro fits
    cases fits with
    | noItems => simp
    | array room items every => exact every
  · exact .array room items

@[simp] theorem fits_object (room : Nat) (members : Members) :
    Fits (room + 1) (.object members) ↔ AllFit room members := by
  constructor
  · intro fits
    cases fits with
    | noMembers => simp [AllFit]
    | object room members every => exact every
  · exact .object room members

theorem bind_eq_ok {ε α β : Type} (first : Except ε α) (next : α → Except ε β) (result : β) :
    (first >>= next) = .ok result ↔ ∃ value, first = .ok value ∧ next value = .ok result := by
  cases first with
  | error failure => simp [bind, Except.bind]
  | ok value => simp [bind, Except.bind]

theorem number_head (text : List Char) (read : Json × List Char) (accepted : number text = .ok read) :
    (∃ c tail, text = c :: tail ∧ isDigit c = true) ∨ ∃ c tail, text = '-' :: c :: tail ∧ isDigit c = true := by
  unfold number at accepted
  split at accepted
  · obtain ⟨c, tail, rfl, digit⟩ := number_from_head _ _ _ _ accepted
    exact .inr ⟨c, tail, rfl, digit⟩
  · exact .inl (number_from_head _ _ _ _ accepted)

theorem words_listed : words = [(['n', 'u', 'l', 'l'], .null), (['t', 'r', 'u', 'e'], .bool true),
    (['f', 'a', 'l', 's', 'e'], .bool false), (['N', 'a', 'N'], .float .nan),
    (['I', 'n', 'f', 'i', 'n', 'i', 't', 'y'], .float (.infinite false)),
    (['-', 'I', 'n', 'f', 'i', 'n', 'i', 't', 'y'], .float (.infinite true))] := rfl

theorem word_other (c d : Char) (word tail : List Char) (other : d ≠ c) : word? (d :: word) (c :: tail) = none := by
  simp [word?, other]

theorem digit_other (c d : Char) (digit : isDigit c = true) (letter : isDigit d = false) : d ≠ c := by
  rintro rfl
  rw [digit] at letter
  cases letter

-- The text of a number begins as none of the words does.
theorem scalar_number (text : List Char) (begun : (∃ c tail, text = c :: tail ∧ isDigit c = true) ∨
    ∃ c tail, text = '-' :: c :: tail ∧ isDigit c = true) : scalar text = number text := by
  rw [scalar, words_listed]
  rcases begun with ⟨c, tail, rfl, digit⟩ | ⟨c, tail, rfl, digit⟩
  · have other (d : Char) (letter : isDigit d = false) := digit_other c d digit letter
    simp [word_other, other 'n' rfl, other 't' rfl, other 'f' rfl, other 'N' rfl, other 'I' rfl, other '-' rfl]
  · have other : 'I' ≠ c := digit_other c 'I' digit rfl
    simp [word?, other]

theorem scalar_of_number (text : List Char) (read : Json × List Char) (accepted : number text = .ok read) :
    scalar text = .ok read := by
  rw [scalar_number text (number_head text read accepted), accepted]

/- What a value may begin with. -/

def isScalarStart (c : Char) : Bool := isDigit c || ['-', 'n', 't', 'f', 'N', 'I'].contains c

theorem scalar_start_other (c d : Char) (start : isScalarStart c = true) (mark : isScalarStart d = false) : c ≠ d := by
  rintro rfl
  rw [start] at mark
  cases mark

theorem word_begins (word text rest : List Char) (found : word? word text = some rest) : text = word ++ rest := by
  unfold word? at found
  split at found
  · rename_i starts
    obtain ⟨tail, rfl⟩ := List.isPrefixOf_iff_prefix.mp starts
    simpa using found
  · cases found

theorem words_start : ∀ entry ∈ words, ∃ c tail, entry.1 = c :: tail ∧ isScalarStart c = true := by
  rw [words_listed]
  simp [isScalarStart]

theorem scalar_head (text : List Char) (read : Json × List Char) (accepted : scalar text = .ok read) :
    ∃ c tail, text = c :: tail ∧ isScalarStart c = true := by
  unfold scalar at accepted
  split at accepted
  · rename_i found searched
    obtain ⟨entry, listed, picked⟩ := List.exists_of_findSome?_eq_some searched
    obtain ⟨rest, begun, same⟩ := Option.map_eq_some_iff.mp picked
    obtain ⟨c, tail, word, start⟩ := words_start entry listed
    exact ⟨c, tail ++ rest, by rw [word_begins _ _ _ begun, word]; rfl, start⟩
  · rcases number_head text read accepted with ⟨c, tail, rfl, digit⟩ | ⟨c, tail, rfl, digit⟩
    · exact ⟨c, tail, rfl, by simp [isScalarStart, digit]⟩
    · exact ⟨'-', c :: tail, rfl, rfl⟩

theorem value_scalar (fuel room : Nat) (c : Char) (tail : List Char) (start : isScalarStart c = true) :
    value (fuel + 1) room (c :: tail) = scalar (c :: tail) := by
  unfold value
  split
  · rename_i same
    exact absurd (List.cons.inj same).1 (scalar_start_other c '"' start rfl)
  · rename_i same
    exact absurd (List.cons.inj same).1 (scalar_start_other c '[' start rfl)
  · rename_i same
    exact absurd (List.cons.inj same).1 (scalar_start_other c '\x7b' start rfl)
  · rfl

theorem value_of_scalar (fuel room : Nat) (text : List Char) (read : Json × List Char)
    (accepted : scalar text = .ok read) : value (fuel + 1) room text = .ok read := by
  obtain ⟨c, tail, rfl, start⟩ := scalar_head text read accepted
  rw [value_scalar fuel room c tail start, accepted]

theorem null_reads (rest : List Char) : scalar (['n', 'u', 'l', 'l'] ++ rest) = .ok (.null, rest) := by
  simp [scalar, words_listed, word?]

theorem bool_reads (style : Style) (truth : Bool) (rest : List Char) :
    scalar (write style (.bool truth) ++ rest) = .ok (.bool truth, rest) := by
  cases truth <;> simp [write, scalar, words_listed, word?]

def isValueStart (c : Char) : Bool := isScalarStart c || ['"', '[', '\x7b'].contains c

theorem value_start_other (c d : Char) (start : isValueStart c = true) (mark : isValueStart d = false) : c ≠ d := by
  rintro rfl
  rw [start] at mark
  cases mark

theorem value_start_not_space (c : Char) (start : isValueStart c = true) : isSpace c = false := by
  have blank := value_start_other c ' ' start rfl
  have line := value_start_other c '\n' start rfl
  have tab := value_start_other c '\t' start rfl
  have carriage := value_start_other c '\r' start rfl
  simp [isSpace, blank, line, tab, carriage]

theorem skip_space_stays (c : Char) (tail : List Char) (visible : isSpace c = false) :
    skipSpace (c :: tail) = c :: tail := by
  simp [skipSpace, visible]

/- One step of the reader for each kind of value with parts. -/

theorem value_of_string (fuel room : Nat) (opened rest : List Char) (text : String)
    (read : stringAt ('"' :: opened) opened = .ok (text, rest)) :
    value (fuel + 1) room ('"' :: opened) = .ok (.string text, rest) := by
  simp only [value, read]
  rfl

theorem value_of_items (fuel room : Nat) (opened : List Char) (c : Char) (tail rest : List Char) (items : List Json)
    (skipped : skipSpace opened = c :: tail) (start : isValueStart c = true)
    (read : itemsFrom fuel room (c :: tail) = .ok (items, rest)) :
    value (fuel + 1) (room + 1) ('[' :: opened) = .ok (.array items, rest) := by
  have other := value_start_other c ']' start rfl
  simp only [value, skipped]
  split
  · rename_i closed
    exact absurd (List.cons.inj closed).1 other
  · rw [read]
    rfl

theorem value_of_members (fuel room : Nat) (opened tail rest : List Char) (members : Members)
    (skipped : skipSpace opened = '"' :: tail) (read : membersFrom fuel room ('"' :: tail) = .ok (members, rest)) :
    value (fuel + 1) (room + 1) ('\x7b' :: opened) = .ok (.object members, rest) := by
  simp only [value, skipped]
  split
  · rename_i closed
    exact absurd (List.cons.inj closed).1 (by decide)
  · rw [read]
    rfl

theorem items_end (fuel room : Nat) (text behind rest : List Char) (item : Json)
    (read : value fuel room text = .ok (item, behind)) (closed : skipSpace behind = ']' :: rest) :
    itemsFrom (fuel + 1) room text = .ok ([item], rest) := by
  simp only [itemsFrom, read, bind, Except.bind, closed]
  rfl

theorem items_continue (fuel room : Nat) (text behind next rest : List Char) (item : Json) (items : List Json)
    (read : value fuel room text = .ok (item, behind)) (comma : skipSpace behind = ',' :: next)
    (later : itemsFrom fuel room (skipSpace next) = .ok (items, rest)) :
    itemsFrom (fuel + 1) room text = .ok (item :: items, rest) := by
  simp only [itemsFrom, read, bind, Except.bind, comma, later]
  rfl

section

variable (fuel room : Nat) (opened left after behind next rest : List Char) (key : String) (item : Json)
  (members : Members)

theorem members_end (named : stringAt ('"' :: opened) opened = .ok (key, left))
    (colon : skipSpace left = ':' :: after) (read : value fuel room (skipSpace after) = .ok (item, behind))
    (closed : skipSpace behind = '\x7d' :: rest) :
    membersFrom (fuel + 1) room ('"' :: opened) = .ok ([(key, item)], rest) := by
  simp only [membersFrom, named, bind, Except.bind, colon, read, closed]
  rfl

theorem members_continue (named : stringAt ('"' :: opened) opened = .ok (key, left))
    (colon : skipSpace left = ':' :: after) (read : value fuel room (skipSpace after) = .ok (item, behind))
    (comma : skipSpace behind = ',' :: next)
    (later : membersFrom fuel room (skipSpace next) = .ok (members, rest)) :
    membersFrom (fuel + 1) room ('"' :: opened) = .ok ((key, item) :: members, rest) := by
  simp only [membersFrom, named, bind, Except.bind, colon, read, comma, later]
  rfl

end

/- What comes back of a written value: all of it but the numbers that are not finite, which a style may lose. -/

mutual

def reread (lost : Binary64 → Json) : Json → Json
  | .float (.finite negative rank) => .float (.finite negative rank)
  | .float other => lost other
  | .array items => .array (rereadItems lost items)
  | .object members => .object (rereadMembers lost members)
  | other => other

def rereadItems (lost : Binary64 → Json) : List Json → List Json
  | [] => []
  | item :: rest => reread lost item :: rereadItems lost rest

def rereadMembers (lost : Binary64 → Json) : Members → Members
  | [] => []
  | (key, value) :: rest => (key, reread lost value) :: rereadMembers lost rest

end

theorem reread_items_map (lost : Binary64 → Json) (items : List Json) :
    rereadItems lost items = items.map (reread lost) := by
  induction items with
  | nil => rfl
  | cons item rest ih => rw [rereadItems, ih, List.map_cons]

theorem reread_members_map (lost : Binary64 → Json) (members : Members) :
    rereadMembers lost members = members.map fun (key, value) => (key, reread lost value) := by
  induction members with
  | nil => rfl
  | cons member rest ih => rw [rereadMembers, ih, List.map_cons]

def Style.Loses (style : Style) (lost : Binary64 → Json) : Prop :=
  ∀ number rest, number.isFinite = false → Closes rest →
    scalar (style.nonFinite number ++ rest) = .ok (lost number, rest)

theorem compact_loses : compact.Loses fun _ => .null := fun _ rest _ _ => null_reads rest

theorem ascii_loses : ascii.Loses .float := by
  intro number rest infinite _
  cases number with
  | nan => simp [ascii, scalar, words_listed, word?]
  | infinite negative => cases negative <;> simp [ascii, scalar, words_listed, word?]
  | finite negative rank => cases infinite

theorem float_reads (style : Style) (lost : Binary64 → Json) (loses : style.Loses lost) (number : Binary64)
    (rest : List Char) (closes : Closes rest) :
    scalar (writeFloat style number ++ rest) = .ok (reread lost (.float number), rest) := by
  cases number with
  | finite negative rank => exact scalar_of_number _ _ (write_float_reads_back style negative rank rest closes)
  | nan => exact loses .nan rest rfl closes
  | infinite negative => exact loses (.infinite negative) rest rfl closes

theorem write_int_head (number : Int) : (∃ c tail, writeInt number = c :: tail ∧ isDigit c = true) ∨
    ∃ c tail, writeInt number = '-' :: c :: tail ∧ isDigit c = true := by
  obtain ⟨c, tail, same⟩ := List.exists_cons_of_ne_nil (Decimal.numeral_nonempty number.natAbs)
  have digit : isDigit c = true := Decimal.numeral_digits number.natAbs c (same ▸ List.mem_cons_self)
  by_cases negative : number < 0
  · exact .inr ⟨c, tail, by rw [writeInt, if_pos negative, same], digit⟩
  · exact .inl ⟨c, tail, by rw [writeInt, if_neg negative, same], digit⟩

theorem write_int_start (number : Int) : ∃ c tail, writeInt number = c :: tail ∧ isScalarStart c = true := by
  rcases write_int_head number with ⟨c, tail, same, digit⟩ | ⟨c, tail, same, _⟩
  · exact ⟨c, tail, same, by simp [isScalarStart, digit]⟩
  · exact ⟨'-', c :: tail, same, rfl⟩

theorem closes_nothing : Closes [] := by simp [Closes]

theorem closes_comma (rest : List Char) : Closes (',' :: rest) := by simp [Closes]

theorem closes_bracket (rest : List Char) : Closes (']' :: rest) := by simp [Closes]

theorem closes_brace (rest : List Char) : Closes ('\x7d' :: rest) := by simp [Closes]

theorem write_start (style : Style) (lost : Binary64 → Json) (loses : style.Loses lost) (json : Json) :
    ∃ c tail, write style json = c :: tail ∧ isValueStart c = true := by
  cases json with
  | null => exact ⟨'n', _, rfl, rfl⟩
  | bool truth => cases truth <;> exact ⟨_, _, rfl, rfl⟩
  | int number =>
    obtain ⟨c, tail, same, start⟩ := write_int_start number
    exact ⟨c, tail, by rw [write, same], by simp [isValueStart, start]⟩
  | float number =>
    have read := float_reads style lost loses number [] closes_nothing
    obtain ⟨c, tail, same, start⟩ := scalar_head _ _ read
    exact ⟨c, tail, by simpa [write] using same, by simp [isValueStart, start]⟩
  | string text => exact ⟨'"', _, rfl, rfl⟩
  | array items => exact ⟨'[', _, rfl, rfl⟩
  | object members => exact ⟨'\x7b', _, rfl, rfl⟩

theorem items_start (style : Style) (lost : Binary64 → Json) (loses : style.Loses lost) (item : Json)
    (more : List Json) (rest : List Char) :
    ∃ c tail, writeItems style (item :: more) ++ rest = c :: tail ∧ isValueStart c = true := by
  obtain ⟨c, tail, same, start⟩ := write_start style lost loses item
  cases more with
  | nil => exact ⟨c, tail ++ rest, by rw [writeItems, same]; rfl, start⟩
  | cons next later => exact ⟨c, _, by rw [writeItems, same]; rfl, start⟩

theorem members_start (style : Style) (key : String) (json : Json) (more : Members) (rest : List Char) :
    ∃ tail, writeMembers style ((key, json) :: more) ++ rest = '"' :: tail := by
  cases more with
  | nil => exact ⟨_, rfl⟩
  | cons next later => exact ⟨_, rfl⟩

/- The round trip. The fuel is bounded by the text that is left: a container or an item takes one step of the fuel
   and at least one character of the text. -/

mutual

theorem value_reads_back (style : Style) (lost : Binary64 → Json) (loses : style.Loses lost) (json : Json)
    (fuel room : Nat) (rest : List Char) (fits : Fits room json) (closes : Closes rest)
    (enough : 2 * (write style json ++ rest).length + 1 ≤ fuel) :
    value fuel room (write style json ++ rest) = .ok (reread lost json, rest) := by
  obtain ⟨fuel, rfl⟩ : ∃ less, fuel = less + 1 := ⟨fuel - 1, by omega⟩
  cases json with
  | null => exact value_of_scalar _ _ _ _ (null_reads rest)
  | bool truth => exact value_of_scalar _ _ _ _ (bool_reads style truth rest)
  | int number =>
    have short : ShortInt number := by cases fits; assumption
    exact value_of_scalar _ _ _ _ (scalar_of_number _ _ (write_int_reads_back number rest short closes))
  | float number => exact value_of_scalar _ _ _ _ (float_reads style lost loses number rest closes)
  | string text =>
    obtain ⟨opened, same, read⟩ := write_string_reads_back style text rest
    rw [write, same]
    exact value_of_string fuel room opened rest text (read _)
  | array items =>
    cases items with
    | nil => rfl
    | cons item more =>
      obtain ⟨room, rfl, every⟩ : ∃ less, room = less + 1 ∧ ∀ part ∈ item :: more, Fits less part := by
        cases fits
        exact ⟨_, rfl, by assumption⟩
      have text : write style (.array (item :: more)) ++ rest =
          '[' :: (writeItems style (item :: more) ++ ']' :: rest) := by
        simp [write]
      rw [text, List.length_cons] at enough
      have read := items_read_back style lost loses (item :: more) fuel room rest (by simp) every (by omega)
      obtain ⟨c, tail, same, start⟩ := items_start style lost loses item more (']' :: rest)
      rw [same] at read
      have visible := skip_space_stays c tail (value_start_not_space c start)
      rw [text, same, reread, value_of_items fuel room _ c tail rest _ visible start read]
  | object members =>
    cases members with
    | nil => rfl
    | cons member more =>
      obtain ⟨room, rfl, every⟩ : ∃ less, room = less + 1 ∧ AllFit less (member :: more) := by
        cases fits
        exact ⟨_, rfl, by assumption⟩
      have text : write style (.object (member :: more)) ++ rest =
          '\x7b' :: (writeMembers style (member :: more) ++ '\x7d' :: rest) := by
        simp [write]
      rw [text, List.length_cons] at enough
      have read := members_read_back style lost loses (member :: more) fuel room rest (by simp) every (by omega)
      obtain ⟨tail, same⟩ := members_start style member.1 member.2 more ('\x7d' :: rest)
      rw [same] at read
      rw [text, same, reread, value_of_members fuel room _ tail rest _ (skip_space_stays '"' tail rfl) read]

theorem items_read_back (style : Style) (lost : Binary64 → Json) (loses : style.Loses lost) (items : List Json)
    (fuel room : Nat) (rest : List Char) (nonempty : items ≠ []) (fits : ∀ item ∈ items, Fits room item)
    (enough : 2 * (writeItems style items ++ ']' :: rest).length + 2 ≤ fuel) :
    itemsFrom fuel room (writeItems style items ++ ']' :: rest) = .ok (rereadItems lost items, rest) := by
  obtain ⟨fuel, rfl⟩ : ∃ less, fuel = less + 1 := ⟨fuel - 1, by omega⟩
  match items with
  | [] => exact absurd rfl nonempty
  | [item] =>
    have read := value_reads_back style lost loses item fuel room (']' :: rest) (fits item List.mem_cons_self)
      (closes_bracket rest) (by rw [writeItems] at enough; omega)
    exact items_end fuel room _ _ rest _ read (skip_space_stays ']' rest rfl)
  | item :: next :: more =>
    have text : writeItems style (item :: next :: more) ++ ']' :: rest =
        write style item ++ ',' :: (writeItems style (next :: more) ++ ']' :: rest) := by
      simp [writeItems]
    rw [text] at enough ⊢
    have read := value_reads_back style lost loses item fuel room
      (',' :: (writeItems style (next :: more) ++ ']' :: rest)) (fits item List.mem_cons_self) (closes_comma _)
      (by omega)
    have later := items_read_back style lost loses (next :: more) fuel room rest (by simp)
      (fun part member => fits part (List.mem_cons_of_mem _ member)) (by
        rw [List.length_append, List.length_cons] at enough
        omega)
    obtain ⟨c, tail, same, start⟩ := items_start style lost loses next more (']' :: rest)
    rw [same] at read later ⊢
    have visible := skip_space_stays c tail (value_start_not_space c start)
    exact items_continue fuel room _ _ _ rest _ _ read (skip_space_stays ',' _ rfl) (visible.symm ▸ later)

theorem members_read_back (style : Style) (lost : Binary64 → Json) (loses : style.Loses lost) (members : Members)
    (fuel room : Nat) (rest : List Char) (nonempty : members ≠ []) (fits : AllFit room members)
    (enough : 2 * (writeMembers style members ++ '\x7d' :: rest).length + 2 ≤ fuel) :
    membersFrom fuel room (writeMembers style members ++ '\x7d' :: rest) = .ok (rereadMembers lost members, rest) := by
  obtain ⟨fuel, rfl⟩ : ∃ less, fuel = less + 1 := ⟨fuel - 1, by omega⟩
  match members with
  | [] => exact absurd rfl nonempty
  | [(key, json)] =>
    obtain ⟨c, tail, same, start⟩ := write_start style lost loses json
    have text : writeMembers style [(key, json)] ++ '\x7d' :: rest =
        writeString style key ++ ':' :: (write style json ++ '\x7d' :: rest) := by
      simp [writeMembers]
    obtain ⟨opened, begun, named⟩ := write_string_reads_back style key (':' :: (write style json ++ '\x7d' :: rest))
    rw [text] at enough ⊢
    have read := value_reads_back style lost loses json fuel room ('\x7d' :: rest) (fits _ List.mem_cons_self)
      (closes_brace rest) (by
        rw [List.length_append, List.length_cons] at enough
        omega)
    rw [begun]
    rw [same, List.cons_append] at read named
    have visible := skip_space_stays c (tail ++ '\x7d' :: rest) (value_start_not_space c start)
    exact members_end fuel room opened _ _ _ rest key _ (named _) (skip_space_stays ':' _ rfl) (visible.symm ▸ read)
      (skip_space_stays '\x7d' rest rfl)
  | (key, json) :: next :: more =>
    obtain ⟨c, tail, same, start⟩ := write_start style lost loses json
    obtain ⟨after, continued⟩ := members_start style next.1 next.2 more ('\x7d' :: rest)
    have text : writeMembers style ((key, json) :: next :: more) ++ '\x7d' :: rest =
        writeString style key ++ ':' :: (write style json ++
          ',' :: (writeMembers style (next :: more) ++ '\x7d' :: rest)) := by
      simp [writeMembers]
    obtain ⟨opened, begun, named⟩ := write_string_reads_back style key
      (':' :: (write style json ++ ',' :: (writeMembers style (next :: more) ++ '\x7d' :: rest)))
    rw [text] at enough ⊢
    have read := value_reads_back style lost loses json fuel room
      (',' :: (writeMembers style (next :: more) ++ '\x7d' :: rest)) (fits _ List.mem_cons_self) (closes_comma _) (by
        rw [List.length_append, List.length_cons] at enough
        omega)
    have later := members_read_back style lost loses (next :: more) fuel room rest (by simp)
      (fun entry member => fits entry (List.mem_cons_of_mem _ member)) (by
        rw [List.length_append, List.length_cons, List.length_append, List.length_cons] at enough
        omega)
    rw [begun]
    rw [continued] at read named later
    rw [same, List.cons_append] at read named
    have visible := skip_space_stays c (tail ++ ',' :: '"' :: after) (value_start_not_space c start)
    exact members_continue fuel room opened _ _ _ _ rest key _ _ (named _) (skip_space_stays ':' _ rfl)
      (visible.symm ▸ read) (skip_space_stays ',' _ rfl) (skip_space_stays '"' after rfl ▸ later)

end

theorem read_list_write (style : Style) (lost : Binary64 → Json) (loses : style.Loses lost) (json : Json) (room : Nat)
    (fits : Fits room json) : readList room (write style json) = .ok (reread lost json) := by
  have read := value_reads_back style lost loses json (fuelFor (write style json)) room [] fits closes_nothing
    (by rw [fuelFor, List.append_nil]; omega)
  obtain ⟨c, tail, same, start⟩ := write_start style lost loses json
  rw [List.append_nil] at read
  rw [same] at read ⊢
  have noMark : c ≠ '\ufeff' := value_start_other c '\ufeff' start rfl
  unfold readList
  split
  · rename_i marked
    exact absurd (List.cons.inj marked).1 noMark
  · rw [skip_space_stays c tail (value_start_not_space c start), read]
    rfl

theorem read_text (style : Style) (lost : Binary64 → Json) (loses : style.Loses lost) (json : Json) (room : Nat)
    (fits : Fits room json) : read room (json.text style) = .ok (reread lost json) := by
  rw [read, text, String.toList_ofList]
  exact read_list_write style lost loses json room fits

/- Values without numbers that are not finite come back whole in every style. -/

mutual

def finite : Json → Bool
  | .float number => number.isFinite
  | .array items => finiteItems items
  | .object members => finiteMembers members
  | _ => true

def finiteItems : List Json → Bool
  | [] => true
  | item :: rest => item.finite && finiteItems rest

def finiteMembers : Members → Bool
  | [] => true
  | (_, value) :: rest => value.finite && finiteMembers rest

end

mutual

theorem reread_finite (lost : Binary64 → Json) (json : Json) (all : json.finite = true) : reread lost json = json := by
  cases json with
  | float number =>
    cases number with
    | finite negative rank => rfl
    | nan => cases all
    | infinite negative => cases all
  | array items => rw [reread, reread_finite_items lost items all]
  | object members => rw [reread, reread_finite_members lost members all]
  | null => rfl
  | bool truth => rfl
  | int number => rfl
  | string text => rfl

theorem reread_finite_items (lost : Binary64 → Json) (items : List Json) (all : finiteItems items = true) :
    rereadItems lost items = items := by
  cases items with
  | nil => rfl
  | cons item rest =>
    obtain ⟨first, later⟩ := Bool.and_eq_true_iff.mp all
    rw [rereadItems, reread_finite lost item first, reread_finite_items lost rest later]

theorem reread_finite_members (lost : Binary64 → Json) (members : Members) (all : finiteMembers members = true) :
    rereadMembers lost members = members := by
  cases members with
  | nil => rfl
  | cons member rest =>
    obtain ⟨key, json⟩ := member
    obtain ⟨first, later⟩ := Bool.and_eq_true_iff.mp all
    rw [rereadMembers, reread_finite lost json first, reread_finite_members lost rest later]

end

mutual

theorem reread_kept (json : Json) : reread .float json = json := by
  cases json with
  | float number => cases number <;> rfl
  | array items => rw [reread, reread_kept_items items]
  | object members => rw [reread, reread_kept_members members]
  | null => rfl
  | bool truth => rfl
  | int number => rfl
  | string text => rfl

theorem reread_kept_items (items : List Json) : rereadItems .float items = items := by
  cases items with
  | nil => rfl
  | cons item rest => rw [rereadItems, reread_kept item, reread_kept_items rest]

theorem reread_kept_members (members : Members) : rereadMembers .float members = members := by
  cases members with
  | nil => rfl
  | cons member rest =>
    obtain ⟨key, json⟩ := member
    rw [rereadMembers, reread_kept json, reread_kept_members rest]

end

/- A value that was read fits the room it was read in. -/

theorem short_of_digits (digits : List Char) (negative : Bool) (nonempty : digits ≠ [])
    (every : ∀ c ∈ digits, isDigit c = true) (short : digits.length ≤ digitLimit) :
    ShortInt (if negative then -(Decimal.valueOf digits : Int) else Decimal.valueOf digits) := by
  have size : (if negative then -(Decimal.valueOf digits : Int) else Decimal.valueOf digits).natAbs =
      Decimal.valueOf digits := by
    split <;> omega
  have bound := Decimal.value_of_bound digits every
  have length := Decimal.numeral_length _ digits.length (List.length_pos_iff.mpr nonempty) bound
  rw [ShortInt, size]
  exact Nat.le_trans length short

theorem number_after_fits (negative : Bool) (start whole after rest : List Char) (json : Json) (room : Nat)
    (nonempty : whole ≠ []) (every : ∀ c ∈ whole, isDigit c = true)
    (accepted : numberAfter negative start whole after = .ok (json, rest)) : Fits room json := by
  simp only [numberAfter] at accepted
  split at accepted
  · split at accepted
    · cases accepted
    · rename_i few
      cases accepted
      exact .int _ _ (short_of_digits whole negative nonempty every (Nat.le_of_not_lt few))
  · cases accepted
    exact .float _ _

theorem drop_while_stops (text : List Char) : StopsDigits (text.dropWhile isDigit) := by
  induction text with
  | nil => simp [StopsDigits]
  | cons c tail ih =>
    by_cases digit : isDigit c = true
    · rwa [List.dropWhile_cons_of_pos digit]
    · rw [List.dropWhile_cons_of_neg digit]
      exact stops_at c tail (by simpa using digit)

theorem number_from_fits (negative : Bool) (start text rest : List Char) (json : Json) (room : Nat)
    (accepted : numberFrom negative start text = .ok (json, rest)) : Fits room json := by
  obtain ⟨c, tail, rfl, digit⟩ := number_from_head _ _ _ _ accepted
  by_cases zero : c = '0'
  · subst zero
    exact number_after_fits negative start ['0'] tail rest json room (by simp) zero_digits accepted
  · have begun : (c :: tail).takeWhile isDigit = c :: tail.takeWhile isDigit := List.takeWhile_cons_of_pos digit
    have every : ∀ d ∈ (c :: tail).takeWhile isDigit, isDigit d = true := fun d member =>
      List.all_eq_true.mp List.all_takeWhile d member
    have nonempty : (c :: tail).takeWhile isDigit ≠ [] := by simp [begun]
    have canonical : ((c :: tail).takeWhile isDigit).head? ≠ some '0' := by simpa [begun] using zero
    rw [← List.takeWhile_append_dropWhile (p := isDigit) (l := c :: tail),
      number_from_whole _ _ _ _ nonempty every (.inr canonical) (drop_while_stops _)] at accepted
    exact number_after_fits negative start _ _ rest json room nonempty every accepted

theorem number_fits (text rest : List Char) (json : Json) (room : Nat) (accepted : number text = .ok (json, rest)) :
    Fits room json := by
  unfold number at accepted
  split at accepted
  · exact number_from_fits _ _ _ _ _ room accepted
  · exact number_from_fits _ _ _ _ _ room accepted

theorem words_fit (room : Nat) : ∀ entry ∈ words, Fits room entry.2 := by
  rw [words_listed]
  intro entry listed
  simp only [List.mem_cons, List.not_mem_nil, or_false] at listed
  rcases listed with rfl | rfl | rfl | rfl | rfl | rfl
  · exact .null room
  · exact .bool room true
  · exact .bool room false
  · exact .float room _
  · exact .float room _
  · exact .float room _

theorem scalar_fits (text rest : List Char) (json : Json) (room : Nat) (accepted : scalar text = .ok (json, rest)) :
    Fits room json := by
  unfold scalar at accepted
  split at accepted
  · rename_i found searched
    obtain ⟨entry, listed, picked⟩ := List.exists_of_findSome?_eq_some searched
    obtain ⟨after, begun, same⟩ := Option.map_eq_some_iff.mp picked
    cases accepted
    rw [← (Prod.mk.inj same).1]
    exact words_fit room entry listed
  · exact number_fits text rest json room accepted

mutual

theorem value_fits (fuel room : Nat) (text rest : List Char) (json : Json)
    (accepted : value fuel room text = .ok (json, rest)) : Fits room json := by
  cases fuel with
  | zero => cases accepted
  | succ fuel =>
    unfold value at accepted
    split at accepted
    · obtain ⟨read, named, same⟩ := (bind_eq_ok _ _ _).mp accepted
      cases same
      exact .string _ _
    · split at accepted
      · cases accepted
        exact .noItems _
      · cases room with
        | zero => cases accepted
        | succ room =>
          obtain ⟨read, found, same⟩ := (bind_eq_ok _ _ _).mp accepted
          cases same
          exact .array room _ (items_fit fuel room _ _ _ found)
    · split at accepted
      · cases accepted
        exact .noMembers _
      · cases room with
        | zero => cases accepted
        | succ room =>
          obtain ⟨read, found, same⟩ := (bind_eq_ok _ _ _).mp accepted
          cases same
          exact .object room _ (members_fit fuel room _ _ _ found)
    · exact scalar_fits _ _ _ _ accepted

theorem items_fit (fuel room : Nat) (text rest : List Char) (items : List Json)
    (accepted : itemsFrom fuel room text = .ok (items, rest)) : ∀ item ∈ items, Fits room item := by
  cases fuel with
  | zero => cases accepted
  | succ fuel =>
    unfold itemsFrom at accepted
    obtain ⟨⟨first, after⟩, found, accepted⟩ := (bind_eq_ok _ _ _).mp accepted
    have fits := value_fits fuel room _ _ _ found
    dsimp only at accepted
    split at accepted
    · cases accepted
      simpa using fits
    · obtain ⟨⟨later, left⟩, continued, same⟩ := (bind_eq_ok _ _ _).mp accepted
      cases same
      simpa using ⟨fits, items_fit fuel room _ _ _ continued⟩
    · cases accepted

theorem members_fit (fuel room : Nat) (text rest : List Char) (members : Members)
    (accepted : membersFrom fuel room text = .ok (members, rest)) : AllFit room members := by
  cases fuel with
  | zero => cases accepted
  | succ fuel =>
    unfold membersFrom at accepted
    split at accepted
    · obtain ⟨⟨key, after⟩, named, accepted⟩ := (bind_eq_ok _ _ _).mp accepted
      dsimp only at accepted
      split at accepted
      · obtain ⟨⟨first, after⟩, found, accepted⟩ := (bind_eq_ok _ _ _).mp accepted
        have fits := value_fits fuel room _ _ _ found
        dsimp only at accepted
        split at accepted
        · cases accepted
          simpa [AllFit] using fits
        · obtain ⟨⟨later, left⟩, continued, same⟩ := (bind_eq_ok _ _ _).mp accepted
          cases same
          have rest := members_fit fuel room _ _ _ continued
          simp only [AllFit, List.mem_cons] at rest ⊢
          rintro entry (rfl | member)
          · exact fits
          · exact rest entry member
        · cases accepted
      · cases accepted
    · cases accepted

end

theorem read_fits (room : Nat) (text : String) (json : Json) (accepted : read room text = .ok json) :
    Fits room json := by
  unfold read readList at accepted
  split at accepted
  · cases accepted
  · obtain ⟨⟨found, after⟩, taken, accepted⟩ := (bind_eq_ok _ _ _).mp accepted
    dsimp only at accepted
    split at accepted
    · cases accepted
      exact value_fits _ room _ _ _ taken
    · cases accepted

-- Values of the same text are the same.
theorem write_determines (room : Nat) (left right : Json) (leftFits : Fits room left) (rightFits : Fits room right)
    (same : write ascii left = write ascii right) : left = right := by
  have leftRead := read_list_write ascii .float ascii_loses left room leftFits
  have rightRead := read_list_write ascii .float ascii_loses right room rightFits
  rw [same, rightRead, reread_kept, reread_kept] at leftRead
  exact (Except.ok.inj leftRead).symm

end Gatehouse.Json
