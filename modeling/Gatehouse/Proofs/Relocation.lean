import Gatehouse.Proofs.Review
import Mathlib.Data.Option.Basic

/- Requests that differ in nothing but in where their objects are, by their own word or by that of the object. The
   objects are decoded alike: to objects that differ in nothing but their namespace, or with the same failure. -/
namespace Gatehouse

-- What metadata may say for a namespace: a text, or nothing.
inductive NamesPlace : Json → Prop where
  | text (nameSpace : String) : NamesPlace (.string nameSpace)
  | null : NamesPlace .null

-- A member that says nothing of a namespace.
def placeless (entry : String × Json) : Bool := entry.1 != "namespace"

structure MetadataAlike (left right : Members) : Prop where
  rest : left.filter placeless = right.filter placeless
  named : ∀ entry ∈ left ++ right, entry.1 = "namespace" → NamesPlace entry.2

inductive ObjectAlike : Members → Members → Prop where
  | nil : ObjectAlike [] []
  | kept (entry : String × Json) (rest others : Members) (later : ObjectAlike rest others) :
    ObjectAlike (entry :: rest) (entry :: others)
  | placed (left right rest others : Members) (alike : MetadataAlike left right) (later : ObjectAlike rest others) :
    ObjectAlike (("metadata", .object left) :: rest) (("metadata", .object right) :: others)

/-- The other request asks the same about the same object in any other place: its own namespace is any text or none,
    and so is the one in the metadata of the object. -/
structure Relocated (request other : Request) : Prop where
  same : other = { request with nameSpace := other.nameSpace, object := other.object }
  object : Option.Rel ObjectAlike request.object other.object

theorem metadata_alike_last (left right : Members) (alike : MetadataAlike left right) (key : String)
    (other : key ≠ "namespace") : lastOf left key = lastOf right key := by
  have kept (json : Json) : placeless (key, json) = true := by simp [placeless, other]
  rw [← last_of_filter left placeless key kept, alike.rest, last_of_filter right placeless key kept]

theorem place_fits (room : Nat) (json : Json) (named : NamesPlace json) : json.Fits room := by
  cases named with
  | text nameSpace => exact .string room nameSpace
  | null => exact .null room

theorem metadata_alike_fits (room : Nat) (left right : Members) (alike : MetadataAlike left right)
    (fits : Json.AllFit room left) : Json.AllFit room right := by
  intro entry member
  by_cases place : entry.1 = "namespace"
  · exact place_fits room entry.2 (alike.named entry (List.mem_append_right _ member) place)
  · have kept : entry ∈ left.filter placeless := by
      rw [alike.rest]
      exact List.mem_filter.mpr ⟨member, by simpa [placeless] using place⟩
    exact fits entry (List.mem_filter.mp kept).1

theorem metadata_alike_symm (left right : Members) (alike : MetadataAlike left right) : MetadataAlike right left :=
  ⟨alike.rest.symm, fun entry member => alike.named entry (by simpa [or_comm] using member)⟩

theorem object_alike_symm (left right : Members) (alike : ObjectAlike left right) : ObjectAlike right left := by
  induction alike with
  | nil => exact .nil
  | kept entry rest others later ih => exact .kept entry _ _ ih
  | placed left right rest others alike later ih =>
    exact .placed _ _ _ _ (metadata_alike_symm left right alike) ih

-- Metadata that only say where the object is have the room of their object, which is not empty.
theorem object_alike_fits (room : Nat) (left right : Members) (alike : ObjectAlike left right)
    (fits : Json.AllFit (room + 1) left) : Json.AllFit (room + 1) right := by
  induction alike with
  | nil => exact fits
  | kept entry rest others later ih =>
    have head := fits entry List.mem_cons_self
    exact List.forall_mem_cons.mpr ⟨head, ih fun other member => fits other (List.mem_cons_of_mem _ member)⟩
  | placed left right rest others alike later ih =>
    have head := (Json.fits_object room left).mp (fits _ List.mem_cons_self)
    refine List.forall_mem_cons.mpr ⟨?_, ih fun other member => fits other (List.mem_cons_of_mem _ member)⟩
    exact (Json.fits_object room right).mpr (metadata_alike_fits room left right alike head)

theorem object_alike_empty (left right : Members) (alike : ObjectAlike left right) : left = [] ↔ right = [] := by
  cases alike <;> simp

theorem object_alike_last (left right : Members) (alike : ObjectAlike left right) (key : String)
    (other : key ≠ "metadata") : lastOf left key = lastOf right key := by
  induction alike with
  | nil => rfl
  | kept entry rest others later ih => rw [lastOf, lastOf, ih]
  | placed left right rest others alike later ih =>
    have foreign : ("metadata" == key) = false := by simpa using other.symm
    rw [lastOf, lastOf, ih, foreign]
    cases lastOf others key <;> rfl

theorem object_alike_metadata (left right : Members) (alike : ObjectAlike left right) :
    lastOf left "metadata" = lastOf right "metadata" ∨ ∃ metadata other, MetadataAlike metadata other ∧
      lastOf left "metadata" = some (.object metadata) ∧ lastOf right "metadata" = some (.object other) := by
  induction alike with
  | nil => exact .inl rfl
  | kept entry rest others later ih =>
    rcases ih with same | ⟨metadata, other, alike, found, here⟩
    · exact .inl (by rw [lastOf, lastOf, same])
    · exact .inr ⟨metadata, other, alike, by rw [lastOf, found], by rw [lastOf, here]⟩
  | placed left right rest others alike later ih =>
    rcases ih with same | ⟨metadata, other, inner, found, here⟩
    · cases found : lastOf others "metadata" with
      | none => exact .inr ⟨left, right, alike, by simp [lastOf, same, found], by simp [lastOf, found]⟩
      | some json => exact .inl (by simp [lastOf, same, found])
    · exact .inr ⟨metadata, other, inner, by rw [lastOf, found], by rw [lastOf, here]⟩

/- Such objects are read alike -/

-- What one field makes of the members.
def Field.part {α : Type} (field : Field α) (shape : Shape α) (members : Members) : Checked α :=
  match field.find? members with
  | some (key, value) => (shape.read value).under (.key key)
  | none => match field.absent with
    | some value => .ok value
    | none => (Checked.fault .missing).under (.key field.key)

theorem fields_read_parts {α β : Type} (field : Field α) (shape : Shape α) (rest : Fields β) (members : Members) :
    (Fields.cons field shape rest).read members = Checked.both (field.part shape members) (rest.read members) := by
  rw [Fields.read]
  rfl

theorem part_same {α : Type} (field : Field α) (shape : Shape α) (left right : Members)
    (same : ∀ key ∈ field.keys, lastOf left key = lastOf right key) :
    field.part shape left = field.part shape right := by
  have found : field.find? left = field.find? right := by
    rw [Field.find?, Field.find?]
    generalize field.keys = keys at same
    induction keys with
    | nil => rfl
    | cons key rest ih =>
      rw [List.findSome?_cons, List.findSome?_cons, same key List.mem_cons_self,
        ih fun other member => same other (List.mem_cons_of_mem _ member)]
  rw [Field.part, Field.part, found]

theorem fields_read_same {β : Type} (fields : Fields β) (left right : Members)
    (same : ∀ key ∈ fields.keys, lastOf left key = lastOf right key) : fields.read left = fields.read right := by
  cases fields with
  | nil => rfl
  | cons field shape rest =>
    rw [fields_read_parts, fields_read_parts,
      part_same field shape left right fun key member => same key (List.mem_append_left _ member),
      fields_read_same rest left right fun key member => same key (List.mem_append_right _ member)]

def Metadata.unplaced (metadata : Metadata) : Metadata := { metadata with nameSpace := none }

def Object.unplaced {σ : Type} (object : Object σ) : Object σ := { object with metadata := object.metadata.unplaced }

theorem place_read (members : Members) (named : ∀ entry ∈ members, entry.1 = "namespace" → NamesPlace entry.2) :
    ∃ nameSpace, (Field.default "namespace" none).part (.optional textShape) members = .ok nameSpace := by
  have keys : (Field.default "namespace" (none : Option String)).keys = ["namespace"] := by decide
  cases found : lastOf members "namespace" with
  | none =>
    have nowhere := find_none (Field.default "namespace" (none : Option String)) members (by simpa [keys] using found)
    exact ⟨none, by rw [Field.part, nowhere]; rfl⟩
  | some json =>
    have here := find_own (Field.default "namespace" (none : Option String)) members json found
    cases named _ (last_of_member members "namespace" json found) rfl with
    | text nameSpace => exact ⟨some nameSpace, by rw [Field.part, here]; rfl⟩
    | null => exact ⟨none, by rw [Field.part, here]; rfl⟩

-- What the third of several parts is read as matters only as far as it is looked at.
theorem both_third {α β γ δ κ : Type} (look : γ → κ) (first : Checked α) (second : Checked β) (third other : Checked γ)
    (rest : Checked δ) (same : third.map look = other.map look) :
    (Checked.both first (Checked.both second (Checked.both third rest))).map
        (fun parts => (parts.1, parts.2.1, look parts.2.2.1, parts.2.2.2)) =
      (Checked.both first (Checked.both second (Checked.both other rest))).map
        fun parts => (parts.1, parts.2.1, look parts.2.2.1, parts.2.2.2) := by
  cases third with
  | error issues =>
    cases other with
    | error more =>
      cases same
      rfl
    | ok value => cases same
  | ok value =>
    cases other with
    | error more => cases same
    | ok found =>
      have seen : look value = look found := Except.ok.inj same
      cases first <;> cases second <;> cases rest <;> simp [Checked.both, Except.map, seen]

theorem metadata_read (members : Members) : (Metadata.shape.read (.object members)).map Metadata.unplaced =
    ((Checked.both ((Field.default "name" none).part (.optional textShape) members)
      (Checked.both ((Field.default "generateName" none).part (.optional textShape) members)
        (Checked.both ((Field.default "namespace" none).part (.optional textShape) members)
          ((Fields.optional "uid" textShape <| .optional "labels" labelsShape <|
            .optional "annotations" labelsShape .nil).read members)))).map
              fun parts => (parts.1, parts.2.1, (), parts.2.2.2)).map
                fun (name, generateName, _, uid, labels, annotations, ()) =>
                  ⟨name, generateName, none, uid, labels, annotations⟩ := by
  rw [Metadata.shape, Shape.plain, Shape.read, Fields.optional, fields_read_parts, Fields.optional, fields_read_parts,
    Fields.optional, fields_read_parts]
  cases Checked.both ((Field.default "name" none).part (.optional textShape) members) _ <;> rfl

theorem metadata_read_alike (left right : Members) (alike : MetadataAlike left right) :
    (Metadata.shape.read (.object left)).map Metadata.unplaced =
      (Metadata.shape.read (.object right)).map Metadata.unplaced := by
  obtain ⟨here, hereRead⟩ := place_read left fun entry member => alike.named entry (List.mem_append_left _ member)
  obtain ⟨there, thereRead⟩ := place_read right fun entry member => alike.named entry (List.mem_append_right _ member)
  have apart (keys : List String) (foreign : "namespace" ∉ keys) : ∀ key ∈ keys, lastOf left key = lastOf right key :=
    fun key member => metadata_alike_last left right alike key fun same => foreign (same ▸ member)
  rw [metadata_read, metadata_read, hereRead, thereRead,
    part_same (.default "name" none) (.optional textShape) left right (apart _ (by decide)),
    part_same (.default "generateName" none) (.optional textShape) left right (apart _ (by decide)),
    fields_read_same _ left right (apart _ (by decide))]
  exact congrArg _ (both_third (fun _ => ()) _ _ (.ok here) (.ok there) _ rfl)

theorem object_read {σ : Type} (spec : Shape σ) (absent : σ) (members : Members) :
    ((Object.shape spec absent).read (.object members)).map Object.unplaced =
      ((Checked.both ((Field.default "apiVersion" none).part (.optional textShape) members)
        (Checked.both ((Field.default "kind" none).part (.optional textShape) members)
          (Checked.both ((Field.default "metadata" .empty).part Metadata.shape members)
            ((Fields.cons (.default "spec" absent) spec .nil).read members)))).map
              fun parts => (parts.1, parts.2.1, parts.2.2.1.unplaced, parts.2.2.2)).map
                fun (apiVersion, kind, metadata, spec, ()) => ⟨apiVersion, kind, metadata, spec⟩ := by
  rw [Object.shape, Object.fields, Shape.plain, Shape.read, Fields.optional, fields_read_parts, Fields.optional,
    fields_read_parts, fields_read_parts]
  cases Checked.both ((Field.default "apiVersion" none).part (.optional textShape) members) _ <;> rfl

theorem under_map {α β : Type} (step : Step) (checked : Checked α) (look : α → β) :
    (Checked.under step checked).map look = Checked.under step (checked.map look) := by
  cases checked <;> rfl

theorem metadata_part_alike (left right : Members) (alike : ObjectAlike left right) :
    ((Field.default "metadata" .empty).part Metadata.shape left).map Metadata.unplaced =
      ((Field.default "metadata" .empty).part Metadata.shape right).map Metadata.unplaced := by
  have keys : (Field.default "metadata" Metadata.empty).keys = ["metadata"] := by decide
  rcases object_alike_metadata left right alike with same | ⟨metadata, other, inner, found, here⟩
  · rw [part_same _ _ left right (by simpa [keys] using same)]
  · have read := metadata_read_alike metadata other inner
    rw [Field.part, Field.part, find_own (.default "metadata" Metadata.empty) left _ found,
      find_own (.default "metadata" Metadata.empty) right _ here]
    exact (under_map _ _ _).trans (read ▸ (under_map _ _ _).symm)

theorem object_read_alike {σ : Type} (spec : Shape σ) (absent : σ) (left right : Members)
    (alike : ObjectAlike left right) :
    ((Object.shape spec absent).read (.object left)).map Object.unplaced =
      ((Object.shape spec absent).read (.object right)).map Object.unplaced := by
  have apart (keys : List String) (foreign : "metadata" ∉ keys) : ∀ key ∈ keys, lastOf left key = lastOf right key :=
    fun key member => object_alike_last left right alike key fun same => foreign (same ▸ member)
  have spelled : (Fields.cons (.default "spec" absent) spec .nil).keys = ["spec"] := rfl
  rw [object_read, object_read,
    part_same (.default "apiVersion" none) (.optional textShape) left right (apart _ (by decide)),
    part_same (.default "kind" none) (.optional textShape) left right (apart _ (by decide)),
    fields_read_same _ left right (apart _ (by rw [spelled]; decide))]
  exact congrArg _ (both_third Metadata.unplaced _ _ _ _ _ (metadata_part_alike left right alike))

/- and decoded alike -/

theorem decoded_outcome {α : Type} (shape : Shape α) (title : String) (bytes : ByteArray)
    (filled : bytes.isEmpty = false) :
    (Codec.decodeShape shape title bytes).outcome = (shape.decode title bytes).mapError .invalid := by
  rw [Codec.decodeShape, filled]
  cases shape.decode title bytes <;> rfl

theorem decoded_parsed {α β : Type} (shape : Shape α) (title : String) (look : α → β) (bytes : ByteArray) (json : Json)
    (parsed : parseDocument bytes = .ok json) : (Codec.decodeShape shape title bytes).outcome.map look =
      (titled title ((shape.read json).map look)).mapError .invalid := by
  rw [decoded_outcome shape title bytes (parsed_filled bytes json parsed), Shape.decode, parsed]
  show ((titled title (shape.read json)).mapError DecodeFailure.invalid).map look = _
  cases shape.read json <;> rfl

theorem raw_object_unparsed (request : Request) (members : Members) (submitted : request.object = some members)
    (nonempty : members ≠ []) (deep : ¬ (Json.object members).Fits nestingRoom) :
    parseDocument (Utf8.encode request.rawObject) = .error () := by
  cases parsed : parseDocument (Utf8.encode request.rawObject) with
  | error failure => rfl
  | ok json =>
    obtain ⟨text, same, found⟩ := (parse_document_ok _ _).mp parsed
    rw [Utf8.decode_encode, raw_object_text request members submitted nonempty] at same
    cases same
    exact absurd (Json.read_written Json.ascii .float Json.ascii_loses nestingRoom _ _ found).1 deep

theorem unparsed_decoded {α : Type} (shape : Shape α) (title : String) (bytes : ByteArray)
    (filled : bytes.isEmpty = false) (unparsed : parseDocument bytes = .error ()) :
    (Codec.decodeShape shape title bytes).outcome = .error (.invalid ⟨title, [.here .malformedText]⟩) := by
  rw [decoded_outcome shape title bytes filled, Shape.decode, unparsed]
  rfl

theorem raw_object_filled (request : Request) (members : Members) (submitted : request.object = some members)
    (nonempty : members ≠ []) : (Utf8.encode request.rawObject).isEmpty = false := by
  rw [raw_object_text request members submitted nonempty]
  exact Codec.json_text_filled Json.ascii .float Json.ascii_loses _

theorem bare_undecoded {α : Type} (shape : Shape α) (title : String) (request : Request)
    (bare : request.object = none ∨ request.object = some []) :
    (Codec.decodeShape shape title (Utf8.encode request.rawObject)).outcome = .error (.empty title) := by
  rw [Codec.decodeShape, raw_object_empty request bare]
  rfl

theorem object_alike_room (left right : Members) (alike : ObjectAlike left right)
    (fits : (Json.object left).Fits nestingRoom) : (Json.object right).Fits nestingRoom :=
  (Json.fits_object 199 right).mpr (object_alike_fits 198 left right alike ((Json.fits_object 199 left).mp fits))

theorem relocated_decoded {σ : Type} (spec : Shape σ) (absent : σ) (title : String) (request other : Request)
    (relocated : Relocated request other) :
    (Codec.decodeShape (Object.shape spec absent) title (Utf8.encode request.rawObject)).outcome.map Object.unplaced =
      (Codec.decodeShape (Object.shape spec absent) title (Utf8.encode other.rawObject)).outcome.map
        Object.unplaced := by
  have object := relocated.object
  cases here : request.object with
  | none =>
    rw [here] at object
    cases there : other.object with
    | none => rw [bare_undecoded _ title request (.inl here), bare_undecoded _ title other (.inl there)]
    | some right =>
      rw [there] at object
      cases object
  | some left =>
    rw [here] at object
    cases there : other.object with
    | none =>
      rw [there] at object
      cases object
    | some right =>
      rw [there] at object
      obtain ⟨alike⟩ := object
      by_cases empty : left = []
      · have bare := (object_alike_empty left right alike).mp empty
        rw [bare_undecoded _ title request (.inr (empty ▸ here)), bare_undecoded _ title other (.inr (bare ▸ there))]
      · have filled : right ≠ [] := fun bare => empty ((object_alike_empty left right alike).mpr bare)
        by_cases fits : (Json.object left).Fits nestingRoom
        · have room := object_alike_room left right alike fits
          rw [decoded_parsed _ title _ _ _ (raw_object_parsed request left here empty fits),
            decoded_parsed _ title _ _ _ (raw_object_parsed other right there filled room),
            object_read_alike spec absent left right alike]
        · have deep : ¬ (Json.object right).Fits nestingRoom :=
            fun room => fits (object_alike_room right left (object_alike_symm left right alike) room)
          rw [unparsed_decoded _ title _ (raw_object_filled request left here empty)
              (raw_object_unparsed request left here empty fits),
            unparsed_decoded _ title _ (raw_object_filled other right there filled)
              (raw_object_unparsed other right there filled deep)]

end Gatehouse
