import Gatehouse.Proofs.Patch.Application

/- Segments of pointers as RFC 6901 has them. A key is escaped by replacing first every '~' and then every '/', and is
   got back by replacing first every "~1" and then every "~0"; a pointer put together from escaped keys leads along
   these keys and no others. -/
namespace Gatehouse.Pointer

-- Leaves out so many letters first: they belong to an occurrence that was replaced already.
def replacedFrom (old new : List Char) : Nat → List Char → List Char
  | _, [] => []
  | passed + 1, _ :: rest => replacedFrom old new passed rest
  | 0, c :: rest =>
    if old.isPrefixOf (c :: rest) then new ++ replacedFrom old new (old.length - 1) rest
    else c :: replacedFrom old new 0 rest

-- Every occurrence of a text replaced by another, from the left and without overlap.
def replaced (old new text : List Char) : List Char := replacedFrom old new 0 text

def unescape (segment : String) : String :=
  String.ofList (replaced ['~', '0'] ['~'] (replaced ['~', '1'] ['/'] segment.toList))

theorem replaced_letter (mark : Char) (new text : List Char) :
    replaced [mark] new text = text.flatMap fun c => if c = mark then new else [c] := by
  rw [replaced]
  induction text with
  | nil => rfl
  | cons c rest ih =>
    rw [replacedFrom, List.flatMap_cons]
    by_cases same : c = mark
    · simp [same, ih]
    · simp [same, Ne.symm same, ih]

theorem replaced_pair (first second : Char) (new rest : List Char) :
    replaced [first, second] new (first :: second :: rest) = new ++ replaced [first, second] new rest := by
  simp [replaced, replacedFrom]

theorem replaced_plain (first second c : Char) (new rest : List Char) (different : first ≠ c) :
    replaced [first, second] new (c :: rest) = c :: replaced [first, second] new rest := by
  simp [replaced, replacedFrom, different]

theorem replaced_lone (first second c : Char) (new rest : List Char) (different : second ≠ c) :
    replaced [first, second] new (first :: c :: rest) = first :: replaced [first, second] new (c :: rest) := by
  simp [replaced, replacedFrom, different]

theorem escape_replaced (key : List Char) :
    escapeList key = replaced ['/'] ['~', '1'] (replaced ['~'] ['~', '0'] key) := by
  rw [replaced_letter, replaced_letter, List.flatMap_assoc, escapeList]
  congr 1
  funext c
  by_cases tilde : c = '~'
  · subst tilde
    rfl
  · simp [escapeChar, tilde]

-- Where a segment can be read, the two replacements read the same.
theorem unescape_reads (segment key : List Char) (read : unescapeList segment = some key) :
    replaced ['~', '0'] ['~'] (replaced ['~', '1'] ['/'] segment) = key := by
  fun_induction unescapeList segment generalizing key with
  | case1 =>
    cases read
    rfl
  | case2 rest ih =>
    obtain ⟨tail, found, rfl⟩ := Option.map_eq_some_iff.mp read
    rw [replaced_lone _ _ _ _ _ (by decide), replaced_plain _ _ '0' _ _ (by decide), replaced_pair, ih tail found]
    rfl
  | case3 rest ih =>
    obtain ⟨tail, found, rfl⟩ := Option.map_eq_some_iff.mp read
    rw [replaced_pair, List.singleton_append, replaced_plain _ _ _ _ _ (by decide), ih tail found]
  | case4 => cases read
  | case5 c rest _ _ different ih =>
    obtain ⟨tail, found, rfl⟩ := Option.map_eq_some_iff.mp read
    rw [replaced_plain _ _ _ _ _ (Ne.symm different), replaced_plain _ _ _ _ _ (Ne.symm different), ih tail found]

theorem escape_char_cases (c : Char) :
    (∃ mark, escapeChar c = ['~', mark] ∧ (mark = '0' ∨ mark = '1')) ∨ escapeChar c = [c] ∧ c ≠ '~' := by
  by_cases tilde : c = '~'
  · exact .inl ⟨'0', by simp [escapeChar, tilde], .inl rfl⟩
  · by_cases slash : c = '/'
    · exact .inl ⟨'1', by simp [escapeChar, slash], .inr rfl⟩
    · exact .inr ⟨by simp [escapeChar, tilde, slash], tilde⟩

theorem tilde_followed (key before after : List Char) (place : escapeList key = before ++ '~' :: after) :
    ∃ mark rest, after = mark :: rest ∧ (mark = '0' ∨ mark = '1') := by
  induction key generalizing before with
  | nil => simp [escapeList] at place
  | cons c rest ih =>
    rw [escapeList, List.flatMap_cons, ← escapeList] at place
    rcases escape_char_cases c with ⟨mark, escaped, known⟩ | ⟨plain, different⟩
    · rw [escaped] at place
      rcases before with _ | ⟨first, _ | ⟨second, before⟩⟩
      · exact ⟨mark, _, (List.cons.inj place).2.symm, known⟩
      · -- The letter behind a tilde is not a tilde itself.
        obtain ⟨rfl, _⟩ := List.cons.inj (List.cons.inj place).2
        simp at known
      · exact ih before (List.cons.inj (List.cons.inj place).2).2
    · rw [plain] at place
      rcases before with _ | ⟨first, before⟩
      · exact absurd (List.cons.inj place).1 different
      · exact ih before (List.cons.inj place).2

theorem unescape_escaped (key : String) : unescape (escape key) = key := by
  rw [unescape, escape, String.toList_ofList, unescape_reads _ _ (unescape_escape key.toList), String.ofList_toList]

theorem write_escaped (path : List String) :
    (write path).toList = path.flatMap fun key => '/' :: (escape key).toList := by
  simp [write, escape]

end Gatehouse.Pointer

namespace Gatehouse.Json

-- The value that one segment of a pointer refers to: a member of an object, or an item of an array.
def step? (key : String) : Json → Option Json
  | .object members => lastOf members key
  | .array items => (place? key).bind fun place => items[place]?
  | _ => none

def follow? : List String → Json → Option Json
  | [], value => some value
  | key :: rest, value => (step? key value).bind (follow? rest)

def resolve? (pointer : String) (target : Json) : Option Json :=
  (Pointer.parse pointer).bind fun path => follow? path target

/-- A path of keys from a value to one within it. -/
inductive Leads : List String → Json → Json → Prop where
  | here (value : Json) : Leads [] value value
  | member (key : String) (rest : List String) (members : Members) (child value : Json)
      (found : lastOf members key = some child) (later : Leads rest child value) :
      Leads (key :: rest) (.object members) value
  | item (key : String) (rest : List String) (items : List Json) (place : Nat) (child value : Json)
      (numbered : place? key = some place) (found : items[place]? = some child) (later : Leads rest child value) :
      Leads (key :: rest) (.array items) value

theorem leads_followed (path : List String) (target value : Json) (leads : Leads path target value) :
    follow? path target = some value := by
  induction leads with
  | here => rfl
  | member key rest members child value found _ ih => rw [follow?, step?, found, Option.bind_some, ih]
  | item key rest items place child value numbered found _ ih =>
    rw [follow?, step?, numbered, Option.bind_some, found, Option.bind_some, ih]

theorem followed_leads (path : List String) (target value : Json) (followed : follow? path target = some value) :
    Leads path target value := by
  induction path generalizing target with
  | nil =>
    cases followed
    exact .here value
  | cons key rest ih =>
    obtain ⟨child, stepped, followed⟩ := Option.bind_eq_some_iff.mp followed
    have later := ih child followed
    cases target with
    | object members => exact .member key rest members child value stepped later
    | array items =>
      obtain ⟨place, numbered, found⟩ := Option.bind_eq_some_iff.mp stepped
      exact .item key rest items place child value numbered found later
    | null | bool | int | float | string => cases stepped

theorem resolved_leads (path : List String) (target value : Json) :
    resolve? (Pointer.write path) target = some value ↔ Leads path target value := by
  rw [resolve?, Pointer.parse_write, Option.bind_some]
  exact ⟨followed_leads path target value, leads_followed path target value⟩

end Gatehouse.Json

namespace Gatehouse.Pointer

theorem keys_kept_apart :
    (∀ key, (escape key).toList = replaced ['/'] ['~', '1'] (replaced ['~'] ['~', '0'] key.toList) ∧
      '/' ∉ (escape key).toList ∧
      (∀ before after, (escape key).toList = before ++ '~' :: after →
        ∃ mark rest, after = mark :: rest ∧ (mark = '0' ∨ mark = '1')) ∧
      unescape (escape key) = key) ∧
    Function.Injective escape ∧
    ∀ path, (write path).toList = (path.flatMap fun key => '/' :: (escape key).toList) ∧
      parse (write path) = some path ∧
      ∀ target value, Json.resolve? (write path) target = some value ↔ Json.Leads path target value := by
  refine ⟨fun key => ?_, ?_, fun path => ?_⟩
  · rw [escape, String.toList_ofList]
    exact ⟨escape_replaced key.toList, escaped_no_slash key.toList, tilde_followed key.toList,
      unescape_escaped key⟩
  · intro left right same
    rw [← unescape_escaped left, same, unescape_escaped]
  · exact ⟨write_escaped path, parse_write path, Json.resolved_leads path⟩

-- A key that looks like an escaped one, and one that looks like two.
def awkward : Json := .object [("~1", .object [("a/b", .int 1)]), ("/", .int 2)]

theorem awkward_keys_found :
    (escape "~1").toList = ['~', '0', '1'] ∧ unescape (escape "~1") = "~1" ∧ escape "~1" ≠ escape "/" ∧
      Json.resolve? (write ["~1", "a/b"]) awkward = some (.int 1) := by
  obtain ⟨segments, apart, paths⟩ := keys_kept_apart
  have leads : Json.Leads ["~1", "a/b"] awkward (.int 1) :=
    .member _ _ _ _ _ rfl (.member _ _ _ _ _ rfl (.here _))
  exact ⟨(segments "~1").1, (segments "~1").2.2.2, apart.ne (by decide), ((paths _).2.2 awkward _).mpr leads⟩

end Gatehouse.Pointer
