import Gatehouse.Patch.Basic
import Gatehouse.Proofs.Schema.Document
import Gatehouse.Proofs.Schema.Lawful

/- The patch that a response carries. Its text is the base64 text of a document that reads as a patch again, so what
   a response was read with is accepted when the response is read again. -/
namespace Gatehouse

namespace Patch

theorem operation_lawful : operationShape.Lawful := by
  refine ⟨?_, by decide +kernel, fun _ => rfl⟩
  exact required_lawful _ _ _ (Format.named_faithful _ _) (fun _ => rfl) <|
    required_lawful _ _ _ Format.text_faithful (fun _ => rfl) <| anything_lawful _ _ trivial

theorem shape_lawful : shape.Lawful := operation_lawful

/- An operation whose value is not finite is written with null for its value; whatever the value is, the operation
   reads again. -/

theorem value_field (members : Members) (value : Json) : ((Field.default "value" Json.null).find? members = none ∧
    value = .null) ∨ lastOf members "value" = some value → (Fields.cons (.default "value" .null)
      (.leaf Format.anything) .nil).read members = .ok (value.collapsed, ()) := by
  intro given
  refine (fields_read_cons _ _ _ _ _ _).mpr ⟨?_, rfl⟩
  rcases given with ⟨missing, rfl⟩ | found
  · exact .inr ⟨missing, rfl⟩
  · exact .inl ⟨"value", value, find_own _ _ _ found, rfl⟩

theorem operation_reads (members : Members) (action : PatchAction) (path : String) (value : Json)
    (acted : lastOf members "op" = some (.string action.name)) (placed : lastOf members "path" = some (.string path))
    (given : ((Field.default "value" Json.null).find? members = none ∧ value = .null) ∨
      lastOf members "value" = some value) :
    operationShape.read (.object members) = .ok ⟨action, path, value.collapsed⟩ := by
  have named : actionFormat.read (.string action.name) = .ok action := by cases action <;> decide +kernel
  refine (record_read _ _ _ _ _ _).mpr ⟨(action, path, value.collapsed, ()), ?_, rfl⟩
  refine (fields_read_cons _ _ _ _ _ _).mpr ⟨.inl ⟨"op", _, find_own _ _ _ acted, named⟩, ?_⟩
  exact (fields_read_cons _ _ _ _ _ _).mpr
    ⟨.inl ⟨"path", _, find_own _ _ _ placed, rfl⟩, value_field members value given⟩

theorem bare_written (action : PatchAction) (path : String) :
    operationShape.write ⟨action, path, .null⟩ = .object [("op", .string action.name), ("path", .string path)] := rfl

theorem valued_written (action : PatchAction) (path : String) (value : Json) (solid : value ≠ .null) :
    operationShape.write ⟨action, path, value⟩ =
      .object [("op", .string action.name), ("path", .string path), ("value", value)] := by
  cases value with
  | null => exact absurd rfl solid
  | _ => rfl

theorem operation_restored (operation : PatchOperation) :
    ∃ read, operationShape.read (operationShape.write operation).restored = .ok read := by
  obtain ⟨action, path, value⟩ := operation
  have keys : (Field.default "value" Json.null).keys = ["value"] := by decide +kernel
  by_cases null : value = .null
  · rw [null, bare_written]
    refine ⟨_, operation_reads _ action path .null rfl rfl (.inl ⟨find_none _ _ fun key member => ?_, rfl⟩)⟩
    rw [keys, List.mem_singleton] at member
    rw [member]
    rfl
  · rw [valued_written action path value null]
    exact ⟨_, operation_reads _ action path value.restored rfl rfl (.inr rfl)⟩

theorem document_restored (patch : Patch) : ∃ read, shape.read (shape.write patch).restored = .ok read := by
  choose read reads using operation_restored
  refine ⟨patch.map read, ?_⟩
  have written : (shape.write patch).restored =
      .array (patch.map fun operation => (operationShape.write operation).restored) := by
    show Json.array (Json.rereadItems _ _) = _
    rw [Json.reread_items_map, List.map_map]
    rfl
  rw [written, shape, Shape.read, Checked.all_ok]
  apply List.ext_getElem
  · simp
  · intro place inside _
    simp [reads, Checked.under]

/- The text of a patch is accepted as the patch of a response, and whoever decodes it finds its document. -/

theorem encoded_document (patch : Patch) (fits : (shape.write patch).Fits nestingRoom) :
    ∃ bytes, Base64.decodeLenient patch.encode = .ok bytes ∧
      parseDocument ⟨bytes.toArray⟩ = .ok (shape.write patch).restored := by
  refine ⟨_, Base64.decode_list_encode false _, ?_⟩
  rw [Utf8.bytes_of_list]
  exact parse_written _ fits

theorem encoded_accepted (patch : Patch) (fits : (shape.write patch).Fits nestingRoom) :
    checkText patch.encode = .ok (some patch.encode) := by
  obtain ⟨read, reads⟩ := document_restored patch
  have decoded : shape.decode title (Utf8.encode patch.document) = .ok read :=
    (Shape.decode_ok _ _ _ _).mpr ⟨_, parse_written _ fits, reads⟩
  have text : ofText patch.encode = .ok read := by
    rw [ofText, encode, Base64.decode, Base64.decode_list_encode]
    dsimp only
    rw [Utf8.bytes_of_list, decoded]
  rw [checkText, text]

theorem check_text_keeps (text : String) (patch : Option String) (accepted : checkText text = .ok patch) :
    patch = some text := by
  unfold checkText at accepted
  split at accepted
  · cases accepted
    rfl
  · cases accepted

theorem carried_faithful : (carried readCarried).Faithful := by
  intro room json patch within fits read
  cases json with
  | null =>
    cases read
    exact ⟨.null room, rfl⟩
  | string text =>
    have accepted : checkText text = .ok patch := read
    have same := check_text_keeps text patch accepted
    subst same
    exact ⟨.string room text, accepted⟩
  | array items =>
    obtain ⟨operations, found, rfl⟩ := (map_ok _ _ _).mp read
    have wide := Json.fits_more room nestingRoom _ fits within
    have keeps := shape_keeps shape shape_lawful nestingRoom _ operations (Nat.le_refl _) (by decide +kernel) wide found
    exact ⟨.string room _, encoded_accepted operations keeps.1⟩
  | _ => cases read

end Patch
end Gatehouse
