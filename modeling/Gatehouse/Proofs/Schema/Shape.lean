import Gatehouse.Proofs.Bytes
import Gatehouse.Proofs.Schema.Format

/- A shape is lawful when its formats are faithful, its records can be told from their parts, no two fields share a
   key, and a part that is left out of the text is the one that is filled in. A value that a lawful shape read is
   written as JSON that the shape reads as the same value. -/
namespace Gatehouse

namespace Checked

theorem under_ok {α : Type} (step : Step) (checked : Checked α) (value : α) :
    under step checked = .ok value ↔ checked = .ok value := by
  cases checked <;> simp [under]

theorem both_ok {α β : Type} (left : Checked α) (right : Checked β) (pair : α × β) :
    both left right = .ok pair ↔ left = .ok pair.1 ∧ right = .ok pair.2 := by
  obtain ⟨first, second⟩ := pair
  cases left <;> cases right <;> simp [both]

theorem all_ok {α : Type} (results : List (Checked α)) (values : List α) :
    all results = .ok values ↔ results = values.map .ok := by
  induction results generalizing values with
  | nil =>
    cases values <;> simp [all]
  | cons first rest ih =>
    cases values with
    | nil =>
      rw [all]
      split <;> simp
    | cons value more =>
      rw [all, List.map_cons, List.cons.injEq, ← ih more]
      split
      · rename_i pair read
        obtain ⟨same, later⟩ := (both_ok _ _ _).mp read
        simp [same, later]
      · rename_i issues failed
        constructor
        · rintro ⟨⟩
        · rintro ⟨same, later⟩
          simp [both, same, later] at failed

theorem all_member {α : Type} (results : List (Checked α)) (values : List α) (accepted : all results = .ok values) :
    ∀ value ∈ values, .ok value ∈ results := by
  rw [(all_ok _ _).mp accepted]
  exact fun value member => List.mem_map_of_mem member

end Checked

/- How deep a shape nests by itself: the room that its values need when parts of them are filled in. -/

mutual

def Shape.height : {α : Type} → Shape α → Nat
  | _, .leaf _ => 0
  | _, .optional inner => inner.height
  | _, .list item => item.height + 1
  | _, .map item => item.height + 1
  | _, .record fields _ _ _ => fields.height + 1

def Fields.height : {β : Type} → Fields β → Nat
  | _, .nil => 0
  | _, .cons _ shape rest => max shape.height rest.height

end

-- Every key under which some field is looked up.
def Fields.keys : {β : Type} → Fields β → List String
  | _, .nil => []
  | _, .cons field _ rest => field.keys ++ rest.keys

-- No value is written as null.
def Shape.Solid {α : Type} (shape : Shape α) : Prop := ∀ value, (shape.write value).isNull = false

mutual

def Shape.Lawful : {α : Type} → Shape α → Prop
  | _, .leaf format => format.Faithful
  | _, .optional inner => inner.Lawful ∧ inner.Solid
  | _, .list item => item.Lawful
  | _, .map item => item.Lawful
  | _, .record fields build parts _ => fields.Lawful ∧ fields.keys.Nodup ∧ ∀ value, parts (build value) = value

def Fields.Lawful : {β : Type} → Fields β → Prop
  | _, .nil => True
  | _, .cons field shape rest => shape.Lawful ∧ rest.Lawful ∧
    (∀ value, field.absent = some value → ∃ json, (∀ room, json.Fits room) ∧ shape.read json = .ok value) ∧
    ∀ value, (shape.write value).isNull = true → field.absent = some value

end

/- What a shape reads again, and in which room. -/

def Shape.Keeps {α : Type} (shape : Shape α) (room : Nat) (value : α) : Prop :=
  (shape.write value).Fits room ∧ shape.read (shape.write value) = .ok value

theorem list_keeps {α : Type} (item : Shape α) (room : Nat) (values : List α)
    (every : ∀ value ∈ values, item.Keeps room value) : (Shape.list item).Keeps (room + 1) values := by
  refine ⟨.array room _ fun json member => ?_, ?_⟩
  · obtain ⟨value, listed, rfl⟩ := List.mem_map.mp member
    exact (every value listed).1
  · rw [Shape.write, Shape.read, Checked.all_ok]
    apply List.ext_getElem
    · simp
    · intro place inside _
      have bound : place < values.length := by simpa using inside
      have kept := every _ (List.getElem_mem bound)
      simp [kept.2, Checked.under]

theorem map_keeps {α : Type} (item : Shape α) (room : Nat) (entries : List (String × α))
    (distinct : (keysOf entries).Nodup) (every : ∀ entry ∈ entries, item.Keeps room entry.2) :
    (Shape.map item).Keeps (room + 1) entries := by
  refine ⟨.object room _ fun entry member => ?_, ?_⟩
  · obtain ⟨source, listed, rfl⟩ := List.mem_map.mp member
    exact (every source listed).1
  · rw [Shape.write, Shape.read, (Checked.all_ok _ entries).mpr]
    · exact congrArg Except.ok (merged_fixed entries distinct)
    · rw [List.map_map]
      refine List.map_congr_left fun entry member => ?_
      simp [(every entry member).2, Checked.under, Except.map]

-- Every part of a record is kept.
def Fields.Keep : {β : Type} → Fields β → Nat → β → Prop
  | _, .nil, _, _ => True
  | _, .cons _ shape rest, room, (first, others) => shape.Keeps room first ∧ rest.Keep room others

theorem find_none {α : Type} (field : Field α) (members : Members)
    (absent : ∀ key ∈ field.keys, lastOf members key = none) : field.find? members = none := by
  rw [Field.find?, List.findSome?_eq_none_iff]
  intro key member
  rw [absent key member]
  rfl

theorem find_member {α : Type} (field : Field α) (members : Members) (key : String) (json : Json)
    (found : field.find? members = some (key, json)) : (key, json) ∈ members := by
  obtain ⟨asked, _, picked⟩ := List.exists_of_findSome?_eq_some found
  obtain ⟨value, located, same⟩ := Option.map_eq_some_iff.mp picked
  cases same
  exact last_of_member members key json located

theorem find_own {α : Type} (field : Field α) (members : Members) (json : Json)
    (found : lastOf members field.key = some json) : field.find? members = some (field.key, json) := by
  simp [Field.find?, Field.keys, found]

-- The members that a record is written with.
def Fields.shown {β : Type} (fields : Fields β) (parts : β) : Members :=
  (fields.write parts).filter fun (_, json) => !json.isNull

theorem shown_cons {α β : Type} (field : Field α) (shape : Shape α) (rest : Fields β) (first : α) (others : β) :
    (Fields.cons field shape rest).shown (first, others) =
      if (shape.write first).isNull then rest.shown others
      else (field.key, shape.write first) :: rest.shown others := by
  cases null : (shape.write first).isNull <;> simp [Fields.shown, Fields.write, null]

theorem shown_foreign {β : Type} (fields : Fields β) (parts : β) (key : String) (foreign : key ∉ fields.keys) :
    key ∉ keysOf (fields.shown parts) := by
  cases fields with
  | nil => simp [Fields.shown, Fields.write, keysOf]
  | cons field shape rest =>
    obtain ⟨first, others⟩ := parts
    simp only [Fields.keys, List.mem_append, not_or] at foreign
    have later := shown_foreign rest others key foreign.2
    rw [shown_cons]
    split
    · exact later
    · have other : key ≠ field.key := fun same => foreign.1 (same ▸ List.mem_cons_self)
      simpa using ⟨other, later⟩

-- Members before the written ones that none of the fields looks up.
def Fields.Foreign {β : Type} (fields : Fields β) (members : Members) : Prop :=
  ∀ key ∈ fields.keys, lastOf members key = none

theorem foreign_append {β : Type} (fields : Fields β) (members : Members) (key : String) (json : Json)
    (foreign : fields.Foreign members) (other : key ∉ fields.keys) : fields.Foreign (members ++ [(key, json)]) := by
  intro asked member
  have different : key ≠ asked := fun same => other (same ▸ member)
  simp [last_of_append, lastOf, different, foreign asked member]

theorem fields_read_cons {α β : Type} (field : Field α) (shape : Shape α) (rest : Fields β) (members : Members)
    (first : α) (others : β) : (Fields.cons field shape rest).read members = .ok (first, others) ↔
      ((∃ key json, field.find? members = some (key, json) ∧ shape.read json = .ok first) ∨
        (field.find? members = none ∧ field.absent = some first)) ∧ rest.read members = .ok others := by
  rw [Fields.read, Checked.both_ok]
  refine and_congr_left fun _ => ?_
  cases found : field.find? members with
  | some pair =>
    obtain ⟨key, json⟩ := pair
    simp [Checked.under_ok]
  | none => cases absent : field.absent <;> simp [Checked.fault, Checked.under]

theorem fields_read_single {α β : Type} (field : Field α) (shape : Shape α) (rest : Fields β) (members : Members)
    (first : α) (others : β) (only : field.keys = [field.key]) :
    (Fields.cons field shape rest).read members = .ok (first, others) ↔
      ((∃ json, lastOf members field.key = some json ∧ shape.read json = .ok first) ∨
        (lastOf members field.key = none ∧ field.absent = some first)) ∧ rest.read members = .ok others := by
  rw [fields_read_cons]
  cases found : lastOf members field.key <;> simp [Field.find?, only, found]

theorem map_ok {ε α β : Type} (f : α → β) (outcome : Except ε α) (result : β) :
    outcome.map f = .ok result ↔ ∃ value, outcome = .ok value ∧ f value = result := by
  cases outcome <;> simp [Except.map]

theorem optional_read {α : Type} (inner : Shape α) (json : Json) (value : Option α) :
    (Shape.optional inner).read json = .ok value ↔ (json.isNull = true ∧ none = value) ∨
      (json.isNull = false ∧ ∃ content, inner.read json = .ok content ∧ some content = value) := by
  cases json <;> simp [Shape.read, map_ok, Json.isNull]

theorem optional_keeps {α : Type} (inner : Shape α) (room : Nat) (content : α) (solid : inner.Solid)
    (keeps : inner.Keeps room content) : (Shape.optional inner).Keeps room (some content) := by
  refine ⟨keeps.1, ?_⟩
  rw [Shape.write, optional_read]
  exact .inr ⟨solid content, content, keeps.2, rfl⟩

theorem shown_fits {β : Type} (fields : Fields β) (room : Nat) (parts : β) (keep : fields.Keep room parts) :
    Json.AllFit room (fields.shown parts) := by
  cases fields with
  | nil => simp [Json.AllFit, Fields.shown, Fields.write]
  | cons field shape rest =>
    obtain ⟨first, others⟩ := parts
    have later := shown_fits rest room others keep.2
    intro entry member
    rw [shown_cons] at member
    split at member
    · exact later entry member
    · rcases List.mem_cons.mp member with rfl | shown
      · exact keep.1.1
      · exact later entry shown

/- A field is read from the member that stands for it, whatever stands before that member and whatever other keys
   come after it. -/

theorem present_read {α β : Type} (field : Field α) (shape : Shape α) (rest : Fields β) (before after : Members)
    (json : Json) (first : α) (others : β) (once : field.key ∉ keysOf after) :
    (Fields.cons field shape rest).read (before ++ (field.key, json) :: after) = .ok (first, others) ↔
      shape.read json = .ok first ∧ rest.read (before ++ (field.key, json) :: after) = .ok others := by
  have located : lastOf (before ++ (field.key, json) :: after) field.key = some json := by
    simp [last_of_append, lastOf, last_of_absent _ _ once]
  simp [fields_read_cons, find_own field _ json located]

theorem absent_read {α β : Type} (field : Field α) (shape : Shape α) (rest : Fields β) (before after : Members)
    (first : α) (others : β) (unclaimed : ∀ key ∈ field.keys, lastOf before key = none)
    (missing : ∀ key ∈ field.keys, key ∉ keysOf after) :
    (Fields.cons field shape rest).read (before ++ after) = .ok (first, others) ↔
      field.absent = some first ∧ rest.read (before ++ after) = .ok others := by
  have nothing : field.find? (before ++ after) = none := find_none field _ fun key member => by
    rw [last_of_append, last_of_absent _ _ (missing key member), unclaimed key member]
    rfl
  simp [fields_read_cons, nothing]

-- No key of a field is a key of those after it.
theorem keys_apart {α β : Type} (field : Field α) (shape : Shape α) (rest : Fields β)
    (distinct : (Fields.cons field shape rest).keys.Nodup) :
    rest.keys.Nodup ∧ ∀ key ∈ field.keys, key ∉ rest.keys := by
  obtain ⟨_, restDistinct, apart⟩ := List.nodup_append.mp distinct
  exact ⟨restDistinct, fun key member shared => apart key member key shared rfl⟩

theorem foreign_rest {α β : Type} (field : Field α) (shape : Shape α) (rest : Fields β) (members : Members)
    (foreign : (Fields.cons field shape rest).Foreign members) :
    (∀ key ∈ field.keys, lastOf members key = none) ∧ rest.Foreign members :=
  ⟨fun key member => foreign key (List.mem_append_left _ member),
    fun key member => foreign key (List.mem_append_right _ member)⟩

-- A record as it is written: its first part is read from its own member or filled in, the others from what follows.
theorem shown_read_cons {α β : Type} (field : Field α) (shape : Shape α) (rest : Fields β) (first found : α)
    (others following : β) (before : Members) (distinct : (Fields.cons field shape rest).keys.Nodup)
    (foreign : (Fields.cons field shape rest).Foreign before) :
    (Fields.cons field shape rest).read (before ++ (Fields.cons field shape rest).shown (first, others)) =
        .ok (found, following) ↔
      (if (shape.write first).isNull then field.absent = some found ∧ rest.read (before ++ rest.shown others) = .ok following
        else shape.read (shape.write first) = .ok found ∧
          rest.read (before ++ [(field.key, shape.write first)] ++ rest.shown others) = .ok following) := by
  obtain ⟨unclaimed, _⟩ := foreign_rest field shape rest before foreign
  obtain ⟨_, own⟩ := keys_apart field shape rest distinct
  rw [shown_cons]
  split
  · exact absent_read field shape rest before _ found following unclaimed fun key member =>
      shown_foreign rest others key (own key member)
  · rw [present_read field shape rest before _ _ found following
      (shown_foreign rest others _ (own field.key List.mem_cons_self)), List.append_cons]

-- What is shown of the first part is read as that part, and the others are read from what is shown of them.
theorem shown_part_read {α β : Type} (field : Field α) (shape : Shape α) (rest : Fields β) (first found : α)
    (others following : β) (before : Members) (distinct : (Fields.cons field shape rest).keys.Nodup)
    (foreign : (Fields.cons field shape rest).Foreign before)
    (read : (Fields.cons field shape rest).read (before ++ (Fields.cons field shape rest).shown (first, others)) =
      .ok (found, following)) :
    ((shape.write first).isNull = false → shape.read (shape.write first) = .ok found) ∧
      ∃ more, rest.Foreign more ∧ rest.read (more ++ rest.shown others) = .ok following := by
  obtain ⟨_, restForeign⟩ := foreign_rest field shape rest before foreign
  obtain ⟨_, own⟩ := keys_apart field shape rest distinct
  rw [shown_read_cons field shape rest first found others following before distinct foreign] at read
  split at read
  · rename_i null
    exact ⟨fun shown => by simp [null] at shown, before, restForeign, read.2⟩
  · exact ⟨fun _ => read.1, _, foreign_append rest before field.key _ restForeign (own _ List.mem_cons_self), read.2⟩

theorem shown_reads {β : Type} (fields : Fields β) (lawful : fields.Lawful) (distinct : fields.keys.Nodup) (room : Nat)
    (parts : β) (keep : fields.Keep room parts) (before : Members) (foreign : fields.Foreign before) :
    fields.read (before ++ fields.shown parts) = .ok parts := by
  cases fields with
  | nil => rfl
  | cons field shape rest =>
    obtain ⟨first, others⟩ := parts
    obtain ⟨_, restLawful, _, droppable⟩ := lawful
    obtain ⟨restDistinct, own⟩ := keys_apart field shape rest distinct
    obtain ⟨_, restForeign⟩ := foreign_rest field shape rest before foreign
    rw [shown_read_cons field shape rest first first others others before distinct foreign]
    split
    · -- Nothing is written for the part, so it has to be the one that is filled in.
      rename_i null
      exact ⟨droppable first null, shown_reads rest restLawful restDistinct room others keep.2 before restForeign⟩
    · -- The member just read stands before those of the other fields, and none of them looks it up.
      exact ⟨keep.1.2, shown_reads rest restLawful restDistinct room others keep.2 _
        (foreign_append rest before field.key _ restForeign (own field.key List.mem_cons_self))⟩

/- Where the parts of a value that was read come from. -/

theorem list_source {α : Type} (item : Shape α) (room : Nat) (items : List Json) (values : List α)
    (fits : (Json.array items).Fits (room + 1)) (read : (Shape.list item).read (.array items) = .ok values) :
    ∀ value ∈ values, ∃ json, json.Fits room ∧ item.read json = .ok value := by
  intro value member
  obtain ⟨place, inside, same⟩ := List.mem_mapIdx.mp (Checked.all_member _ _ read value member)
  have inner := (Json.fits_array room items).mp fits _ (List.getElem_mem inside)
  exact ⟨items[place], inner, (Checked.under_ok _ _ _).mp same⟩

theorem map_source {α : Type} (item : Shape α) (room : Nat) (members : Members) (entries : List (String × α))
    (fits : (Json.object members).Fits (room + 1)) (read : (Shape.map item).read (.object members) = .ok entries) :
    (keysOf entries).Nodup ∧ ∀ entry ∈ entries, ∃ json, json.Fits room ∧ item.read json = .ok entry.2 := by
  obtain ⟨found, accepted, rfl⟩ := (map_ok _ _ _).mp read
  refine ⟨merged_distinct found, fun entry member => ?_⟩
  have listed := Checked.all_member _ _ accepted entry (merged_member found entry member)
  obtain ⟨⟨key, json⟩, located, same⟩ := List.mem_map.mp listed
  obtain ⟨value, accepted, rfl⟩ := (map_ok _ _ _).mp same
  exact ⟨json, (Json.fits_object room members).mp fits _ located, (Checked.under_ok _ _ _).mp accepted⟩

-- A map keeps the keys of the members that it was read from.
theorem map_source_keys {α : Type} (item : Shape α) (members : Members) (entries : List (String × α))
    (read : (Shape.map item).read (.object members) = .ok entries) (key : String) :
    lastOf entries key = none ↔ lastOf members key = none := by
  obtain ⟨found, accepted, rfl⟩ := (map_ok _ _ _).mp read
  rw [last_of_merged, last_of_none, last_of_none]
  suffices same : keysOf found = keysOf members by rw [same]
  have results := (Checked.all_ok _ _).mp accepted
  clear read accepted
  induction members generalizing found with
  | nil => simpa [keysOf] using results
  | cons member rest ih =>
    cases found with
    | nil => simp at results
    | cons entry more =>
      simp only [List.map_cons, List.cons.injEq] at results
      obtain ⟨value, _, rfl⟩ := (map_ok _ _ _).mp results.1
      rw [keys_of_cons, keys_of_cons, ih more results.2]

theorem ruled_ok {α : Type} (rule : α → Option Fault) (value result : α) :
    ruled rule value = .ok result ↔ value = result ∧ rule value = none := by
  cases found : rule value <;> simp [ruled, found, Checked.fault]

theorem record_read {α β : Type} (fields : Fields β) (build : β → α) (parts : α → β) (rule : α → Option Fault)
    (members : Members) (value : α) : (Shape.record fields build parts rule).read (.object members) = .ok value ↔
      ∃ whole, fields.read members = .ok whole ∧ ruled rule (build whole) = .ok value := by
  rw [Shape.read]
  cases fields.read members <;> simp

theorem record_keeps {α β : Type} (fields : Fields β) (build : β → α) (parts : α → β) (rule : α → Option Fault)
    (lawful : (Shape.record fields build parts rule).Lawful) (room : Nat) (value : α) (whole : β)
    (accepted : ruled rule (build whole) = .ok value) (keep : fields.Keep room whole) :
    (Shape.record fields build parts rule).Keeps (room + 1) value := by
  obtain ⟨fieldsLawful, distinct, rebuilt⟩ := lawful
  obtain ⟨rfl, kept⟩ := (ruled_ok rule (build whole) value).mp accepted
  have again : fields.read (fields.shown whole) = .ok whole :=
    shown_reads fields fieldsLawful distinct room whole keep [] fun _ _ => rfl
  have written : (Shape.record fields build parts rule).write (build whole) = .object (fields.shown whole) := by
    rw [Shape.write, rebuilt]
    rfl
  refine ⟨written ▸ .object room _ (shown_fits fields room whole keep), ?_⟩
  rw [written, record_read]
  exact ⟨whole, again, accepted⟩

mutual

theorem shape_keeps {α : Type} (shape : Shape α) (lawful : shape.Lawful) (room : Nat) (json : Json) (value : α)
    (within : room ≤ nestingRoom) (enough : shape.height ≤ room) (fits : json.Fits room)
    (read : shape.read json = .ok value) : shape.Keeps room value := by
  cases shape with
  | leaf format => exact lawful room json value within fits read
  | optional inner =>
    rcases (optional_read inner json value).mp read with ⟨_, rfl⟩ | ⟨_, content, found, rfl⟩
    · exact ⟨.null room, rfl⟩
    · exact optional_keeps inner room content lawful.2
        (shape_keeps inner lawful.1 room json content within enough fits found)
  | list item =>
    cases json with
    | array items =>
      simp only [Shape.height] at enough
      obtain ⟨room, rfl⟩ : ∃ less, room = less + 1 := ⟨room - 1, by omega⟩
      refine list_keeps item room value fun content member => ?_
      obtain ⟨source, sourceFits, sourceRead⟩ := list_source item room items value fits read content member
      exact shape_keeps item lawful room source content (by omega) (by omega) sourceFits sourceRead
    | _ => cases read
  | map item =>
    cases json with
    | object members =>
      simp only [Shape.height] at enough
      obtain ⟨room, rfl⟩ : ∃ less, room = less + 1 := ⟨room - 1, by omega⟩
      obtain ⟨distinct, sources⟩ := map_source item room members value fits read
      refine map_keeps item room value distinct fun entry member => ?_
      obtain ⟨source, sourceFits, sourceRead⟩ := sources entry member
      exact shape_keeps item lawful room source entry.2 (by omega) (by omega) sourceFits sourceRead
    | _ => cases read
  | record fields build parts rule =>
    cases json with
    | object members =>
      simp only [Shape.height] at enough
      obtain ⟨room, rfl⟩ : ∃ less, room = less + 1 := ⟨room - 1, by omega⟩
      obtain ⟨whole, found, accepted⟩ := (record_read fields build parts rule members value).mp read
      have keep := fields_keep fields lawful.1 room members whole (by omega) (by omega)
        ((Json.fits_object room members).mp fits) found
      exact record_keeps fields build parts rule lawful room value whole accepted keep
    | _ => cases read

theorem fields_keep {β : Type} (fields : Fields β) (lawful : fields.Lawful) (room : Nat) (members : Members) (parts : β)
    (within : room ≤ nestingRoom) (enough : fields.height ≤ room) (fits : Json.AllFit room members)
    (read : fields.read members = .ok parts) : fields.Keep room parts := by
  cases fields with
  | nil => trivial
  | cons field shape rest =>
    obtain ⟨first, others⟩ := parts
    obtain ⟨shapeLawful, restLawful, readable, _⟩ := lawful
    obtain ⟨got, later⟩ := (fields_read_cons field shape rest members first others).mp read
    simp only [Fields.height] at enough
    obtain ⟨source, sourceFits, sourceRead⟩ : ∃ json, json.Fits room ∧ shape.read json = .ok first := by
      rcases got with ⟨key, json, found, read⟩ | ⟨_, absent⟩
      · exact ⟨json, fits _ (find_member field members key json found), read⟩
      · obtain ⟨json, fitsAll, read⟩ := readable first absent
        exact ⟨json, fitsAll room, read⟩
    exact ⟨shape_keeps shape shapeLawful room source first within (by omega) sourceFits sourceRead,
      fields_keep rest restLawful room members others within (by omega) fits later⟩

end

-- What keeps a record keeps its parts.
theorem record_parts_keep {α β : Type} (fields : Fields β) (build : β → α) (parts : α → β) (rule : α → Option Fault)
    (lawful : (Shape.record fields build parts rule).Lawful) (room : Nat) (value : α) (within : room ≤ nestingRoom)
    (enough : fields.height ≤ room) (keeps : (Shape.record fields build parts rule).Keeps (room + 1) value) :
    fields.Keep room (parts value) := by
  obtain ⟨fits, read⟩ := keeps
  rw [Shape.write] at fits read
  obtain ⟨whole, found, accepted⟩ := (record_read fields build parts rule _ value).mp read
  obtain ⟨rfl, _⟩ := (ruled_ok rule _ _).mp accepted
  rw [lawful.2.2 whole]
  exact fields_keep fields lawful.1 room _ whole within enough ((Json.fits_object room _).mp fits) found

end Gatehouse
