import Gatehouse.Proofs.Endpoint.Acceptance
import Gatehouse.Proofs.Relocation

/- The forms in which a response is given its patch: operations, a patch, the base64 text of a document, or that text as
   bytes. They come to the same response, but that a document which is given as text has to be one that can be read
   again. A text is judged by the strict reader of base64, and whoever decodes the patch, with the lenient one, gets the
   bytes that were judged. -/
namespace Gatehouse

namespace Response

-- The same members but for the patch.
def Beside (members others : Members) : Prop := ∀ key, key ≠ "patch" → lastOf others key = lastOf members key

theorem put_beside (members : Members) (json : Json) : Beside members (put members "patch" json) := by
  intro key other
  have kept (entries : Members) : lastOf (entries.filter fun entry => entry.1 != "patch") key = lastOf entries key :=
    last_of_filter entries _ key fun _ => by simpa using other
  rw [← kept, put_others, kept]

theorem append_beside (members : Members) (json : Json) : Beside members (members ++ [("patch", json)]) := by
  intro key other
  have foreign : ("patch" == key) = false := by simpa using other.symm
  simp [last_of_append, lastOf, foreign]

def patchField : Field (Option String) := .default "patch" none

theorem patch_found (members : Members) (json : Json) (found : lastOf members "patch" = some json)
    (readPatch : Json → Checked (Option String)) :
    patchField.part (.leaf (Patch.carried readPatch)) members = (readPatch json).under (.key "patch") := by
  rw [Field.part, find_own patchField members json found]
  rfl

-- Only what the patch is read as matters to the response.
theorem read_beside (members others : Members) (readPatch rereadPatch : Json → Checked (Option String))
    (beside : Beside members others)
    (same : patchField.part (.leaf (Patch.carried readPatch)) members =
      patchField.part (.leaf (Patch.carried rereadPatch)) others) :
    (shapeWith rereadPatch).read (.object others) = (shapeWith readPatch).read (.object members) := by
  have part {α : Type} (field : Field α) (shape : Shape α) (foreign : "patch" ∉ field.keys) :
      field.part shape others = field.part shape members :=
    part_same field shape others members fun key member => beside key fun here => foreign (here ▸ member)
  rw [shapeWith, shapeWith, Shape.read, Shape.read]
  simp only [fields_read_parts, Fields.optional]
  rw [part (.default "uid" "") textShape (by decide),
    part (.default "allowed" false) (.leaf Format.boolean) (by decide),
    part ⟨"status", ["result"], some none⟩ (.optional Status.shape) (by decide),
    part (.default "patchType" none) (.optional _) (by decide),
    part (.default "warnings" none) (.optional (.list textShape)) (by decide)]
  rw [show (Field.default "patch" none).part (.leaf (Patch.carried rereadPatch)) others = _ from same.symm]
  rfl

theorem form_read (members others : Members) (readPatch rereadPatch : Json → Checked (Option String))
    (json other : Json) (beside : Beside members others) (found : lastOf members "patch" = some json)
    (placed : lastOf others "patch" = some other) (same : readPatch json = rereadPatch other) :
    (shapeWith rereadPatch).read (.object others) = (shapeWith readPatch).read (.object members) := by
  apply read_beside members others readPatch rereadPatch beside
  rw [patch_found members json found, patch_found others other placed, same]

theorem patch_read (members : Members) (readPatch : Json → Checked (Option String)) (json : Json) (response : Response)
    (found : lastOf members "patch" = some json) (read : (shapeWith readPatch).read (.object members) = .ok response) :
    readPatch json = .ok response.patch := by
  obtain ⟨⟨uid, allowed, result, carried, rest⟩, parts, accepted⟩ := (record_read _ _ _ _ _ _).mp read
  obtain ⟨rfl, _⟩ := (ruled_ok _ _ _).mp accepted
  simp only [fields_read_cons] at parts
  obtain ⟨_, _, _, source, _⟩ := parts
  rw [find_own _ _ _ found] at source
  rcases source with ⟨_, _, located, taken⟩ | ⟨missing, _⟩
  · cases located
    exact taken
  · cases missing

theorem accepted_taken (members : Members) (text : String) (response : Response)
    (given : lastOf members "patch" = some (.string text)) (read : shape.read (.object members) = .ok response) :
    response.patch = some text ∧ Patch.Taken text := by
  have checked := patch_read members Patch.readCarried _ response given read
  have carried := Patch.check_text_keeps text response.patch checked
  exact ⟨carried, (Patch.taken_checked text).mpr (carried ▸ checked)⟩

/- Bytes are read as their text -/

theorem put_placed (members : Members) (json : Json) :
    ∃ other, lastOf (put members "patch" json) "patch" = some other := by
  rw [← Option.ne_none_iff_exists', ne_eq, last_of_none, put_keys]
  split <;> simp_all

theorem bytes_as_text (members others : Members) (text : String) (beside : Beside members others)
    (given : lastOf others "patch" = some (.string text)) :
    readWithPatch (Utf8.encode text) (.object members) = shape.read (.object others) := by
  obtain ⟨other, placed⟩ := put_placed members .null
  have apart : Beside others (put members "patch" .null) := fun key foreign =>
    (put_beside members .null key foreign).trans (beside key foreign).symm
  apply form_read others (put members "patch" .null) Patch.readCarried _ _ other apart given placed
  rw [Patch.readCarried, Patch.checkBytes, Utf8.decode_encode]

/- Operations, and the text of their document -/

section

variable (members : Members) (items : List Json) (patch : Patch) (response : Response)
  (listed : lastOf members "patch" = some (.array items)) (operations : Patch.shape.read (.array items) = .ok patch)

include listed operations

theorem patch_as_operations : (shapeWith fun _ => .ok (some patch.encode)).read (.object members) =
    shape.read (.object members) := by
  apply form_read members members Patch.readCarried _ _ _ (fun _ _ => rfl) listed listed
  rw [Patch.readCarried, operations]
  rfl

-- Operations that a document has room for are accepted as the text of that document.
theorem fitting_document (others : Members) (beside : Beside members others)
    (given : lastOf others "patch" = some (.string patch.encode)) (fits : (Patch.shape.write patch).Fits nestingRoom) :
    shape.read (.object others) = shape.read (.object members) := by
  apply form_read members others Patch.readCarried Patch.readCarried _ _ beside listed given
  rw [Patch.readCarried, Patch.readCarried, operations, Patch.encoded_accepted patch fits]
  rfl

theorem document_as_operations (others : Members) (beside : Beside members others)
    (given : lastOf others "patch" = some (.string patch.encode)) (read : shape.read (.object members) = .ok response)
    (found : Response) : shape.read (.object others) = .ok found ↔
      found = response ∧ (Patch.shape.write patch).Fits nestingRoom := by
  have again (fits : (Patch.shape.write patch).Fits nestingRoom) : shape.read (.object others) = .ok response :=
    (fitting_document members items patch listed operations others beside given fits).trans read
  constructor
  · intro taken
    have fits := (Patch.encode_taken patch).mp (accepted_taken others patch.encode found given taken).2
    exact ⟨Except.ok.inj (taken.symm.trans (again fits)), fits⟩
  · rintro ⟨rfl, fits⟩
    exact again fits

end

/- A text is judged by the strict reader, and decoded by the lenient one as what was judged -/

theorem taken_judged (text : String) (taken : Patch.Taken text) : ∃ bytes patch, Base64.decode text = .ok bytes ∧
    Patch.shape.decode Patch.title ⟨bytes.toArray⟩ = .ok patch := by
  obtain ⟨patch, taken⟩ := taken
  unfold Patch.ofText at taken
  split at taken
  · cases taken
  · rename_i bytes strict
    split at taken
    · cases taken
    · rename_i found decoded
      exact ⟨bytes, found, strict, decoded⟩

structure JudgedText (text : String) (response : Response) : Prop where
  kept : response.patch = some text
  document : ∃ bytes patch, Base64.decode text = .ok bytes ∧
    Patch.shape.decode Patch.title ⟨bytes.toArray⟩ = .ok patch ∧ response.patchDocument = some (.ok bytes)

theorem text_judged (members : Members) (text : String) (response : Response)
    (given : lastOf members "patch" = some (.string text)) (read : shape.read (.object members) = .ok response) :
    JudgedText text response := by
  obtain ⟨carried, taken⟩ := accepted_taken members text response given read
  obtain ⟨bytes, patch, strict, decoded⟩ := taken_judged text taken
  refine ⟨carried, bytes, patch, strict, decoded, ?_⟩
  rw [patchDocument, carried, Option.map_some, Base64.strict_lenient text bytes strict]

end Response

/- What one part of a record is refused for is reported with the record. -/

def Checked.Reports {α : Type} (checked : Checked α) (issue : Issue) : Prop :=
  ∃ issues, checked = .error issues ∧ issue ∈ issues

theorem both_reports {α β : Type} (left : Checked α) (right : Checked β) (issue : Issue)
    (reported : left.Reports issue ∨ right.Reports issue) : (Checked.both left right).Reports issue := by
  rcases reported with ⟨issues, rfl, member⟩ | ⟨issues, rfl, member⟩
  · cases right with
    | ok value => exact ⟨issues, rfl, member⟩
    | error more => exact ⟨issues ++ more, rfl, List.mem_append_left _ member⟩
  · cases left with
    | ok value => exact ⟨issues, rfl, member⟩
    | error more => exact ⟨more ++ issues, rfl, List.mem_append_right _ member⟩

theorem record_reports {α β : Type} (fields : Fields β) (build : β → α) (parts : α → β) (rule : α → Option Fault)
    (members : Members) (issue : Issue) (reported : (fields.read members).Reports issue) :
    ((Shape.record fields build parts rule).read (.object members)).Reports issue := by
  obtain ⟨issues, failed, member⟩ := reported
  exact ⟨issues, by rw [Shape.read, failed], member⟩

namespace Response

theorem patch_reports (members : Members) (json : Json) (fault : Fault) (found : lastOf members "patch" = some json)
    (refused : Patch.readCarried json = Checked.fault fault) :
    (shape.read (.object members)).Reports ⟨[.key "patch"], fault⟩ := by
  have own : (patchField.part (.leaf (Patch.carried Patch.readCarried)) members).Reports ⟨[.key "patch"], fault⟩ := by
    rw [patch_found members json found, refused]
    exact ⟨_, rfl, List.mem_cons_self⟩
  rw [shape, shapeWith]
  apply record_reports
  simp only [fields_read_parts, Fields.optional]
  -- The parts before the patch: uid, allowed and result.
  iterate 3 refine both_reports _ _ _ (.inr ?_)
  exact both_reports _ _ _ (.inl own)

def notBase64 (failure : Base64.Failure) : Fault :=
  .rejected ("patch is not a base64 encoded JSON patch: " ++ failure.message)

theorem unreadable_reported (members : Members) (text : String) (failure : Base64.Failure)
    (given : lastOf members "patch" = some (.string text)) (strict : Base64.decode text = .error failure) :
    (shape.read (.object members)).Reports ⟨[.key "patch"], notBase64 failure⟩ := by
  apply patch_reports members (.string text) _ given
  rw [Patch.readCarried, Patch.checkText, Patch.ofText, strict]
  rfl

/- All forms -/

structure SameForms (members : Members) (patch : Patch) (response : Response) : Prop where
  operations : (shapeWith fun _ => .ok (some patch.encode)).read (.object members) = .ok response
  text : ∀ others, Beside members others → lastOf others "patch" = some (.string patch.encode) → ∀ found,
    shape.read (.object others) = .ok found ↔ found = response ∧ (Patch.shape.write patch).Fits nestingRoom
  bytes : ∀ found, readWithPatch (Utf8.encode patch.encode) (.object members) = .ok found ↔
    found = response ∧ (Patch.shape.write patch).Fits nestingRoom

theorem listed_same (members : Members) (items : List Json) (patch : Patch) (response : Response)
    (listed : lastOf members "patch" = some (.array items)) (operations : Patch.shape.read (.array items) = .ok patch)
    (read : shape.read (.object members) = .ok response) : SameForms members patch response where
  operations := (patch_as_operations members items patch listed operations).trans read
  text := fun others beside given found =>
    document_as_operations members items patch response listed operations others beside given read found
  bytes := by
    intro found
    have beside := append_beside members (.string patch.encode)
    have given : lastOf (members ++ [("patch", .string patch.encode)]) "patch" = some (.string patch.encode) := by
      rw [last_of_append]
      rfl
    rw [bytes_as_text members _ patch.encode beside given]
    exact document_as_operations members items patch response listed operations _ beside given read found

def textSource (text : String) : Members :=
  [("allowed", .bool true), ("patch", .string text), ("patchType", .string "JSONPatch")]

def spareBits : String := "W3sib3AiOiJyZW1vdmUiLCJwYXRoIjoiL2EifV1="

end Response
end Gatehouse
