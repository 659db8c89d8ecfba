import Gatehouse.Proofs.Response
import Gatehouse.Proofs.Schema.Within
import Mathlib.Logic.Relation

/- What the decoder does not look at: members under keys that no field of a record has, the order of members whose keys
   are distinct, and under which of its two keys a field is given. -/
namespace Gatehouse

mutual

-- The keys of every field, of the records in a shape as well.
def Shape.spellings : {α : Type} → Shape α → List (List String)
  | _, .leaf _ => []
  | _, .optional inner => inner.spellings
  | _, .list item => item.spellings
  | _, .map item => item.spellings
  | _, .record fields _ _ _ => fields.spellings

def Fields.spellings : {β : Type} → Fields β → List (List String)
  | _, .nil => []
  | _, .cons field shape rest => field.keys :: shape.spellings ++ rest.spellings

end

/-- The key of a field in camel case, and its name. -/
inductive Fields.Spelled : ∀ {β : Type}, Fields β → String → String → Prop where
  | first {α β : Type} (field : Field α) (shape : Shape α) (rest : Fields β) (key name : String)
    (keys : field.keys = [key, name]) : Spelled (.cons field shape rest) key name
  | later {α β : Type} (field : Field α) (shape : Shape α) (rest : Fields β) (key name : String)
    (spelled : Spelled rest key name) : Spelled (.cons field shape rest) key name

-- The member under the other key.
def respelled (key name : String) (entry : String × Json) : String × Json :=
  if entry.1 = key then (name, entry.2) else entry

/-- A member that no field looks up is put in anywhere, or members with distinct keys are put in another order. -/
inductive Rearranged : ∀ β : Type, Fields β → Members → Members → Prop where
  | inserted {β : Type} (fields : Fields β) (before after : Members) (key : String) (json : Json)
    (unknown : key ∉ fields.keys) : Rearranged β fields (before ++ after) (before ++ (key, json) :: after)
  | permuted {β : Type} (fields : Fields β) (members others : Members) (distinct : (keysOf members).Nodup)
    (order : members.Perm others) : Rearranged β fields members others

/-- The same, or a key is replaced by the name of its field, which is not there. -/
inductive Respelled : ∀ β : Type, Fields β → Members → Members → Prop where
  | rearranged {β : Type} (fields : Fields β) (members others : Members)
    (rearranged : Rearranged β fields members others) : Respelled β fields members others
  | renamed {β : Type} (fields : Fields β) (members : Members) (key name : String)
    (spelled : fields.Spelled key name) (absent : name ∉ keysOf members) :
    Respelled β fields members (members.map (respelled key name))

theorem last_of_inserted (before after : Members) (key : String) (json : Json) (asked : String) (other : key ≠ asked) :
    lastOf (before ++ after) asked = lastOf (before ++ (key, json) :: after) asked := by
  have foreign : (key == asked) = false := by simpa using other
  simp only [last_of_append, lastOf, foreign, Bool.false_eq_true, if_false]
  cases lastOf after asked <;> rfl

theorem last_of_permuted (members others : Members) (distinct : (keysOf members).Nodup) (order : members.Perm others)
    (key : String) : lastOf members key = lastOf others key := by
  have also : (keysOf others).Nodup := (order.map Prod.fst).nodup_iff.mp distinct
  apply Option.ext
  intro json
  rw [last_of_iff members key json distinct, last_of_iff others key json also]
  exact order.mem_iff

theorem rearranged_read {β : Type} (fields : Fields β) (members others : Members)
    (rearranged : Rearranged β fields members others) : fields.read members = fields.read others := by
  cases rearranged with
  | inserted before after key json unknown =>
    exact fields_read_same fields _ _ fun asked member =>
      last_of_inserted before after key json asked fun same => unknown (same ▸ member)
  | permuted _ _ distinct order =>
    exact fields_read_same fields _ _ fun asked _ => last_of_permuted members others distinct order asked

/- A renamed key -/

section

variable (members : Members) (key name : String) (different : key ≠ name) (absent : name ∉ keysOf members)

include different

theorem last_of_respelled_key : lastOf (members.map (respelled key name)) key = none := by
  apply last_of_absent
  intro member
  obtain ⟨entry, listed, same⟩ := List.mem_map.mp member
  obtain ⟨before, _, rfl⟩ := List.mem_map.mp listed
  by_cases here : before.1 = key
  · rw [respelled, if_pos here] at same
    exact different same.symm
  · rw [respelled, if_neg here] at same
    exact here same

omit different in
theorem last_of_respelled_elsewhere (asked : String) (notKey : asked ≠ key) (notName : asked ≠ name) :
    lastOf (members.map (respelled key name)) asked = lastOf members asked := by
  induction members with
  | nil => rfl
  | cons entry rest ih =>
    rw [List.map_cons, lastOf, lastOf, ih]
    by_cases here : entry.1 = key
    · have foreign : (key == asked) = false := by simpa using notKey.symm
      have also : (name == asked) = false := by simpa using notName.symm
      simp [respelled, here, foreign, also]
    · simp [respelled, here]

include absent in
omit different in
theorem last_of_respelled_name : lastOf (members.map (respelled key name)) name = lastOf members key := by
  induction members with
  | nil => rfl
  | cons entry rest ih =>
    simp only [keys_of_cons, List.mem_cons, not_or] at absent
    rw [List.map_cons, lastOf, lastOf, ih absent.2]
    by_cases here : entry.1 = key
    · simp [respelled, here]
    · have foreign : (entry.1 == name) = false := by simpa using Ne.symm absent.1
      simp [respelled, here, foreign]

end

theorem spelled_keys {β : Type} (fields : Fields β) (key name : String) (spelled : fields.Spelled key name) :
    key ∈ fields.keys ∧ name ∈ fields.keys := by
  induction spelled with
  | first field shape rest key name keys => simp [Fields.keys, keys]
  | later field shape rest key name _ ih =>
    exact ⟨List.mem_append_right _ ih.1, List.mem_append_right _ ih.2⟩

theorem renamed_part {α : Type} (field : Field α) (shape : Shape α) (members : Members) (key name : String)
    (keys : field.keys = [key, name]) (different : key ≠ name) (absent : name ∉ keysOf members) :
    Checked.SameValue (field.part shape members) (field.part shape (members.map (respelled key name))) := by
  have nameless : lastOf members name = none := last_of_absent members name absent
  have keyless := last_of_respelled_key members key name different
  have moved := last_of_respelled_name members key name absent
  cases found : lastOf members key with
  | none =>
    have nothing : field.find? members = none := by simp [Field.find?, keys, found, nameless]
    have also : field.find? (members.map (respelled key name)) = none := by
      simp [Field.find?, keys, keyless, moved, found]
    rw [Field.part, Field.part, nothing, also]
    rfl
  | some json =>
    have here : field.find? members = some (key, json) := by simp [Field.find?, keys, found]
    have there : field.find? (members.map (respelled key name)) = some (name, json) := by
      simp [Field.find?, keys, keyless, moved, found]
    rw [Field.part, Field.part, here, there]
    cases read : shape.read json <;> simp [Checked.SameValue, Checked.under, read, Except.toOption]

theorem renamed_read {β : Type} (fields : Fields β) (members : Members) (key name : String)
    (spelled : fields.Spelled key name) (distinct : fields.keys.Nodup) (absent : name ∉ keysOf members) :
    Checked.SameValue (fields.read members) (fields.read (members.map (respelled key name))) := by
  induction spelled with
  | first field shape rest key name keys =>
    obtain ⟨_, apart⟩ := keys_apart field shape rest distinct
    have different : key ≠ name := by
      have both := (List.nodup_append.mp distinct).1
      rw [keys] at both
      simpa using both
    have others := fields_read_same rest members (members.map (respelled key name)) fun asked member =>
      (last_of_respelled_elsewhere members key name asked
        (fun same => apart key (by simp [keys]) (same ▸ member))
        (fun same => apart name (by simp [keys]) (same ▸ member))).symm
    rw [fields_read_parts, fields_read_parts, others]
    exact Checked.same_value_respected.both _ _ _ _ (renamed_part field shape members key name keys different absent) rfl
  | later field shape rest key name spelled ih =>
    obtain ⟨restDistinct, apart⟩ := keys_apart field shape rest distinct
    obtain ⟨keyed, named⟩ := spelled_keys rest key name spelled
    have first := part_same field shape members (members.map (respelled key name)) fun asked member =>
      (last_of_respelled_elsewhere members key name asked (fun same => apart asked member (same ▸ keyed))
        (fun same => apart asked member (same ▸ named))).symm
    rw [fields_read_parts, fields_read_parts, first]
    exact Checked.same_value_respected.both _ _ _ _ rfl (ih restDistinct absent)

theorem respelled_read {β : Type} (fields : Fields β) (members others : Members) (distinct : fields.keys.Nodup)
    (changed : Respelled β fields members others) :
    Checked.SameValue (fields.read members) (fields.read others) := by
  cases changed with
  | rearranged _ rearranged => exact congrArg _ (rearranged_read fields members others rearranged)
  | renamed key name spelled absent => exact renamed_read fields members key name spelled distinct absent

/- Any number of such changes, anywhere in a document -/

section

variable {alike : ∀ {α : Type}, Checked α → Checked α → Prop} (respected : Checked.Respected @alike)
  (joined : ∀ {α : Type} (first second third : Checked α), alike first second → alike second third → alike first third)
  (change : ∀ β : Type, Fields β → Members → Members → Prop)
  (unread : ∀ {β : Type} (fields : Fields β) (members others : Members), fields.keys.Nodup →
    change β fields members others → alike (fields.read members) (fields.read others))

include respected joined unread

theorem changes_alike {α : Type} (shape : Shape α) (lawful : shape.Lawful) (json other : Json)
    (changes : Relation.ReflTransGen (Shape.Within change shape) json other) :
    alike (shape.read json) (shape.read other) := by
  induction changes with
  | refl => exact respected.same _
  | tail _ step ih =>
    exact joined _ _ _ ih (shape_within_alike respected change unread shape _ _ step lawful)

end

/-- The keys under which a field can be given: its own, which may be its name as well, or its own and its name. -/
inductive Spelling : List String → Prop where
  | single (key : String) (plain : snake key = key) : Spelling [key]
  | named (key : String) : Spelling [key, snake key]
  | result : Spelling ["status", "result"]

/-- What the decoder of a target does not look at. -/
structure Target.Tolerant (target : Target) : Prop where
  spelled : ∀ keys ∈ target.shape.spellings, Spelling keys
  rearranged : ∀ bytes other json again, parseDocument bytes = .ok json → parseDocument other = .ok again →
    Relation.ReflTransGen (Shape.Within Rearranged target.shape) json again →
      Codec.decode target other = Codec.decode target bytes
  respelled : ∀ bytes other json again, parseDocument bytes = .ok json → parseDocument other = .ok again →
    Relation.ReflTransGen (Shape.Within Respelled target.shape) json again →
      (Codec.decode target other).outcome.toOption = (Codec.decode target bytes).outcome.toOption

def isSpelling : List String → Bool
  | [key] => snake key == key
  | [key, name] => name == snake key || key == "status" && name == "result"
  | _ => false

theorem is_spelling (keys : List String) (checked : isSpelling keys = true) : Spelling keys := by
  match keys with
  | [key] => exact .single key (eq_of_beq checked)
  | [key, name] =>
    simp only [isSpelling, Bool.or_eq_true, Bool.and_eq_true, beq_iff_eq] at checked
    rcases checked with rfl | ⟨rfl, rfl⟩
    · exact .named key
    · exact .result

theorem spellings_known (target : Target) : ∀ keys ∈ target.shape.spellings, Spelling keys := by
  have known : target.shape.spellings.all isSpelling = true := by
    cases target with
    | resource type => cases type <;> decide +kernel
    | _ => decide +kernel
  exact fun keys member => is_spelling keys (List.all_eq_true.mp known keys member)

theorem written_parsed (json : Json) (fits : json.Fits nestingRoom) :
    parseDocument (Utf8.encode (json.text Json.ascii)) = .ok json := by
  have read := Json.read_text Json.ascii .float Json.ascii_loses json nestingRoom fits
  rw [Json.reread_kept] at read
  exact (parse_document_ok _ _).mpr ⟨_, Utf8.decode_encode _, read⟩

theorem decoded_value (target : Target) (bytes : ByteArray) (json : Json) (parsed : parseDocument bytes = .ok json) :
    (Codec.decode target bytes).outcome.toOption = (target.shape.read json).toOption := by
  rw [Codec.decode, decoded_outcome _ _ _ (parsed_filled bytes json parsed), Shape.decode, parsed]
  simp only [Shape.validate]
  cases target.shape.read json <;> rfl

theorem target_tolerant (target : Target) : target.Tolerant where
  spelled := spellings_known target
  rearranged bytes other json again parsed reparsed changes := by
    have same := changes_alike Checked.equal_respected (fun _ _ _ => Eq.trans) Rearranged
      (fun fields members others _ => rearranged_read fields members others) target.shape target.shape_lawful json again
      changes
    have decoded : target.shape.decode target.title other = target.shape.decode target.title bytes := by
      simp only [Shape.decode, parsed, reparsed, Shape.validate, same]
    rw [Codec.decode, Codec.decode, Codec.decodeShape, Codec.decodeShape, parsed_filled bytes json parsed,
      parsed_filled other again reparsed, decoded]
  respelled bytes other json again parsed reparsed changes := by
    have same : Checked.SameValue (target.shape.read json) (target.shape.read again) :=
      changes_alike Checked.same_value_respected (fun _ _ _ => Eq.trans) Respelled respelled_read target.shape
        target.shape_lawful json again changes
    rw [decoded_value target other again reparsed, decoded_value target bytes json parsed]
    exact same.symm

theorem response_within {β : Type} (change : ∀ β : Type, Fields β → Members → Members → Prop) (fields : Fields β)
    (build : β → Response) (parts : Response → β) (rule : Response → Option Fault)
    (shape : Response.shape = .record fields build parts rule) (members others : Members)
    (changed : change β fields members others) :
    Shape.Within change Review.shape (.object [("response", .object members)])
      (.object [("response", .object others)]) := by
  apply Shape.Within.field
  apply Fields.Within.later
  apply Fields.Within.later
  apply Fields.Within.later
  apply Fields.Within.first _ _ _ [] [] "response"
  · decide
  · apply Shape.Within.optional
    rw [shape]
    exact .here fields build parts rule members others changed

def statusEntry : String × Json := ("status", .object [("message", .string "no")])

def auditEntry : String × Json := ("auditId", .array [.object [("allowed", .null)]])

def statusSource : Json := .object [("response", .object [statusEntry, ("allowed", .bool true)])]

def resultSource : Json :=
  .object [("response", .object [("allowed", .bool true), auditEntry, ("result", statusEntry.2)])]

def resultReview : Review :=
  ⟨.v1, Review.title, none, some ⟨"", true, some ⟨"no", none, none⟩, none, none, none⟩⟩

def groupSource : Json := .object [("group", .string "g")]

def longSource : Json := .object [("group", .string "g"), ("count", .int (10 ^ Json.digitLimit : Nat))]

theorem long_unread (found : Json) : parseDocument (Utf8.encode (longSource.text Json.compact)) ≠ .ok found := by
  intro parsed
  obtain ⟨fits, _⟩ := parsed_document_fits longSource found parsed
  have inside := (Json.fits_object _ _).mp fits _ (List.mem_cons_of_mem _ List.mem_cons_self)
  cases inside with
  | int _ _ short => exact Format.long_of_bound _ (Nat.le_refl _) short

end Gatehouse
