import Gatehouse.Proofs.Patch.Application
import Gatehouse.Proofs.Patch.Carried
import Gatehouse.Review
import Mathlib.Data.List.Forall2

/- What is sent of a patch that was given as the list of its operations. The operations are the same, one by one and in
   order, each with the action, the path and the value that it was given with; but a value that is null is left out.
   So the document that is sent does what the given operations do, unless one of them adds null or replaces by null:
   then it describes no patch at all. -/
namespace Gatehouse

theorem list_read {α : Type} (item : Shape α) (items : List Json) (values : List α)
    (read : (Shape.list item).read (.array items) = .ok values) :
    List.Forall₂ (fun json value => item.read json = .ok value) items values := by
  have every := (Checked.all_ok _ _).mp read
  have long := congrArg List.length every
  simp only [List.length_mapIdx, List.length_map] at long
  refine List.forall₂_iff_get.mpr ⟨long, fun place inside within => ?_⟩
  have same := congrArg (fun results => results[place]?) every
  simp only [List.getElem?_mapIdx, List.getElem?_map, List.getElem?_eq_getElem inside,
    List.getElem?_eq_getElem within, Option.map_some, Option.some.injEq] at same
  exact (Checked.under_ok _ _ _).mp same

theorem related_left {α β : Type} {relation : α → β → Prop} (left : List α) (right : List β)
    (related : List.Forall₂ relation left right) : ∀ one ∈ left, ∃ other ∈ right, relation one other := by
  induction related with
  | nil => simp
  | cons same _ ih =>
    intro one member
    rcases List.mem_cons.mp member with rfl | later
    · exact ⟨_, List.mem_cons_self, same⟩
    · obtain ⟨other, there, holds⟩ := ih one later
      exact ⟨other, List.mem_cons_of_mem _ there, holds⟩

theorem related_right {α β : Type} {relation : α → β → Prop} (left : List α) (right : List β)
    (related : List.Forall₂ relation left right) : ∀ other ∈ right, ∃ one ∈ left, relation one other :=
  related_left right left (List.Forall₂.flip related)

namespace Patch

-- An operation as it was given, and as it is sent.
inductive Sent : Json → Json → Prop where
  | valued (entries : Members) (action : PatchAction) (path : String) (value : Json)
    (acted : lastOf entries "op" = some (.string action.name)) (placed : lastOf entries "path" = some (.string path))
    (given : lastOf entries "value" = some value) (solid : value ≠ .null) : Sent (.object entries)
      (.object [("op", .string action.name), ("path", .string path), ("value", value.collapsed)])
  | bare (entries : Members) (action : PatchAction) (path : String)
    (acted : lastOf entries "op" = some (.string action.name)) (placed : lastOf entries "path" = some (.string path))
    (given : lastOf entries "value" = none ∨ lastOf entries "value" = some .null) : Sent (.object entries)
      (.object [("op", .string action.name), ("path", .string path)])

theorem action_named (json : Json) (action : PatchAction) (read : actionFormat.read json = .ok action) :
    json = .string action.name := by
  cases json with
  | string text =>
    simp only [actionFormat, Format.named] at read
    split at read
    · rename_i found searched
      cases read
      have same := List.find?_some searched
      rw [beq_iff_eq.mp same]
    · cases read
  | _ => cases read

theorem path_given (json : Json) (path : String) (read : Format.text.read json = .ok path) : json = .string path := by
  cases json with
  | string text =>
    cases read
    rfl
  | _ => cases read

theorem operation_source (item : Json) (action : PatchAction) (path : String) (value : Json)
    (read : operationShape.read item = .ok ⟨action, path, value⟩) : ∃ entries, item = .object entries ∧
      lastOf entries "op" = some (.string action.name) ∧ lastOf entries "path" = some (.string path) ∧
      ((∃ given, lastOf entries "value" = some given ∧ value = given.collapsed) ∨
        (lastOf entries "value" = none ∧ value = .null)) := by
  cases item with
  | object entries =>
    obtain ⟨⟨_, _, _, _⟩, found, accepted⟩ := (record_read _ _ _ _ _ _).mp read
    obtain ⟨same, _⟩ := (ruled_ok _ _ _).mp accepted
    cases same
    obtain ⟨acted, found⟩ := (fields_read_single _ _ _ _ _ _ (by decide)).mp found
    obtain ⟨placed, found⟩ := (fields_read_single _ _ _ _ _ _ (by decide)).mp found
    obtain ⟨valued, _⟩ := (fields_read_single _ _ _ _ _ _ (by decide)).mp found
    refine ⟨entries, rfl, ?_, ?_, ?_⟩
    · rcases acted with ⟨json, located, read⟩ | ⟨_, absent⟩
      · rw [action_named json action read] at located
        exact located
      · cases absent
    · rcases placed with ⟨json, located, read⟩ | ⟨_, absent⟩
      · rw [path_given json path read] at located
        exact located
      · cases absent
    · rcases valued with ⟨given, located, read⟩ | ⟨missing, absent⟩
      · cases read
        exact .inl ⟨given, located, rfl⟩
      · cases absent
        exact .inr ⟨missing, rfl⟩
  | _ => cases read

theorem operation_sent (item : Json) (operation : PatchOperation) (read : operationShape.read item = .ok operation) :
    Sent item (operationShape.write operation) := by
  obtain ⟨action, path, value⟩ := operation
  obtain ⟨entries, rfl, acted, placed, valued⟩ := operation_source item action path value read
  rcases valued with ⟨given, located, rfl⟩ | ⟨missing, rfl⟩
  · by_cases null : given = .null
    · subst null
      exact .bare entries action path acted placed (.inr located)
    · rw [valued_written action path _ fun lost => null ((Json.collapsed_null given).mp lost)]
      exact .valued entries action path given acted placed located null
  · exact .bare entries action path acted placed (.inl missing)

theorem sent_finite (given sent : Json) (same : Sent given sent)
    (whole : ∀ value, given.get? "value" = some value → value.finite = true) : sent.finite = true := by
  cases same with
  | valued entries action path value acted placed located solid =>
    have fine := Json.collapsed_finite value (whole value located)
    simp [Json.finite, Json.finiteMembers, fine]
  | bare entries action path acted placed bare => rfl

/- What an operation does -/

-- An operation that is to put null somewhere.
def PutsNull (operation : Json) : Prop :=
  (operation.get? "op" = some (.string "add") ∨ operation.get? "op" = some (.string "replace")) ∧
    operation.get? "value" = some .null

theorem edit_congr (left right : Json) (actions : left.get? "op" = right.get? "op")
    (paths : left.get? "path" = right.get? "path") (values : left.get? "value" = right.get? "value") :
    Json.edit? left = Json.edit? right := by
  rw [Json.edit?, Json.edit?, actions, paths, values]

-- A removal does without a value.
theorem removal_congr (left right : Json) (path : String) (leftActs : left.get? "op" = some (.string "remove"))
    (rightActs : right.get? "op" = some (.string "remove")) (leftPlace : left.get? "path" = some (.string path))
    (rightPlace : right.get? "path" = some (.string path)) : Json.edit? left = Json.edit? right := by
  simp only [Json.edit?, leftActs, rightActs, leftPlace, rightPlace]

theorem collapsed_entry (entries : Members) (key : String) (found : Option Json) (given : lastOf entries key = found) :
    (Json.object entries).collapsed.get? key = found.map Json.collapsed :=
  (Json.get_collapsed _ key).trans (congrArg _ given)

theorem sent_edit (given sent : Json) (same : Sent given sent) (kept : ¬ PutsNull given) :
    Json.edit? sent = Json.edit? given.collapsed := by
  cases same with
  | valued entries action path value acted placed located solid =>
    exact edit_congr _ _ (collapsed_entry entries _ _ acted).symm (collapsed_entry entries _ _ placed).symm
      (collapsed_entry entries _ _ located).symm
  | bare entries action path acted placed bare =>
    have actions := collapsed_entry entries _ _ acted
    have paths := collapsed_entry entries _ _ placed
    rcases bare with missing | null
    · exact edit_congr _ _ actions.symm paths.symm (collapsed_entry entries _ _ missing).symm
    · have removal : action = .remove := by
        cases action with
        | add => exact absurd ⟨.inl acted, null⟩ kept
        | replace => exact absurd ⟨.inr acted, null⟩ kept
        | remove => rfl
      subst removal
      exact removal_congr _ _ path rfl actions rfl paths

theorem sent_undescribed (given sent : Json) (same : Sent given sent) (lost : PutsNull given) :
    Json.edit? sent = none := by
  obtain ⟨puts, null⟩ := lost
  cases same with
  | valued entries action path value acted placed located solid =>
    have found : some value = some Json.null := located.symm.trans null
    exact absurd (Option.some.inj found) solid
  | bare entries action path acted placed bare =>
    cases action with
    | add => exact Option.bind_eq_none_iff.mpr fun keys _ => rfl
    | replace => exact Option.bind_eq_none_iff.mpr fun keys _ => rfl
    | remove =>
      have named : (Json.object entries).get? "op" = some (.string "remove") := acted
      rw [named] at puts
      simp at puts

theorem alike_applied (given sent : List Json)
    (alike : List.Forall₂ (fun given sent => Json.edit? sent = Json.edit? given.collapsed) given sent)
    (target : Json) : Json.applyDocument (.array sent) target = Json.applyDocument (Json.array given).collapsed target := by
  rw [Json.collapsed, Json.collapsed_items_entry, Json.applyDocument, Json.applyDocument]
  induction alike generalizing target with
  | nil => rfl
  | cons same _ ih =>
    rw [List.map_cons, List.foldlM_cons, List.foldlM_cons, Json.applyOperation, Json.applyOperation, same]
    exact Option.bind_congr fun changed _ => ih changed

theorem undescribed_applied (operations : List Json) (operation target : Json) (listed : operation ∈ operations)
    (nothing : Json.edit? operation = none) : Json.applyDocument (.array operations) target = none := by
  rw [Json.applyDocument]
  induction operations generalizing target with
  | nil => cases listed
  | cons first rest ih =>
    rw [List.foldlM_cons]
    rcases List.mem_cons.mp listed with rfl | later
    · rw [Json.applyOperation, nothing]
      rfl
    · exact Option.bind_eq_none_iff.mpr fun changed _ => ih changed later

/- The document that a response sends -/

structure Sends (given sent : List Json) : Prop where
  operations : List.Forall₂ Sent given sent
  alike : (∀ operation ∈ given, ¬ PutsNull operation) → ∀ target,
    Json.applyDocument (.array sent) target = Json.applyDocument (Json.array given).collapsed target
  undescribed : ∀ operation ∈ given, PutsNull operation → ∀ target, Json.applyDocument (.array sent) target = none

theorem sends_of_sent (given sent : List Json) (operations : List.Forall₂ Sent given sent) : Sends given sent := by
  refine ⟨operations, fun kept => ?_, fun operation listed lost => ?_⟩
  · have both := (List.forall₂_and_left given sent).mpr ⟨kept, operations⟩
    exact alike_applied given sent (both.imp fun one other pair => sent_edit one other pair.2 pair.1)
  · obtain ⟨other, there, same⟩ := related_left given sent operations operation listed
    exact fun target => undescribed_applied sent other target there (sent_undescribed operation other same lost)

theorem patch_sent (items : List Json) (patch : Patch) (read : shape.read (.array items) = .ok patch) :
    List.Forall₂ Sent items (patch.map operationShape.write) := by
  rw [List.forall₂_map_right_iff]
  exact (list_read operationShape items patch read).imp fun item operation read => operation_sent item operation read

theorem response_patch (members : Members) (response : Response) (items : List Json)
    (read : Response.shape.read (.object members) = .ok response)
    (given : lastOf members "patch" = some (.array items)) :
    ∃ patch, shape.read (.array items) = .ok patch ∧ response.patch = some patch.encode := by
  obtain ⟨⟨uid, allowed, result, carried, rest⟩, found, accepted⟩ := (record_read _ _ _ _ _ _).mp read
  obtain ⟨rfl, _⟩ := (ruled_ok _ _ _).mp accepted
  simp only [Fields.optional, fields_read_cons] at found
  obtain ⟨_, _, _, found, _⟩ := found
  rw [find_own _ _ _ given] at found
  rcases found with ⟨_, _, located, taken⟩ | ⟨missing, _⟩
  · cases located
    obtain ⟨patch, operations, rfl⟩ := (map_ok _ _ _).mp taken
    exact ⟨patch, operations, rfl⟩
  · cases missing

theorem listed_patch_sent (members : Members) (response : Response) (given : List Json)
    (read : Response.shape.read (.object members) = .ok response)
    (listed : lastOf members "patch" = some (.array given))
    (whole : ∀ operation ∈ given, ∀ value, operation.get? "value" = some value → value.finite = true) :
    ∃ bytes sent, response.patchDocument = some (.ok bytes) ∧
      Utf8.decode ⟨bytes.toArray⟩ = .ok ((Json.array sent).text Json.compact) ∧
      (∀ room, (Json.array sent).Fits room →
        Json.read room ((Json.array sent).text Json.compact) = .ok (.array sent)) ∧
      Sends given sent := by
  obtain ⟨patch, operations, carried⟩ := response_patch members response given read listed
  have each := patch_sent given patch operations
  refine ⟨(Utf8.encode patch.document).toList, patch.map operationShape.write, ?_, ?_, ?_, sends_of_sent _ _ each⟩
  · rw [Response.patchDocument, carried, Option.map_some, encode, Base64.decodeLenient, Base64.decode_list_encode]
  · rw [Utf8.bytes_of_list]
    exact Utf8.decode_encode _
  · intro room fits
    have fine : (Json.array (patch.map operationShape.write)).finite = true := by
      refine (Json.finite_items _).mpr fun sent member => ?_
      obtain ⟨operation, there, same⟩ := related_right given _ each sent member
      exact sent_finite operation sent same (whole operation there)
    rw [Json.read_text Json.compact _ Json.compact_loses _ room fits, Json.reread_finite _ _ fine]

/- Two patches: one with a null inside a value, and one that adds null. -/

def patchSource (operations : List Json) : Members :=
  [("allowed", .bool true), ("patch", .array operations), ("patchType", .string "JSONPatch")]

def patchResponse (patch : Patch) : Response := ⟨"", true, none, some patch.encode, some .jsonPatch, none⟩

def nestedNull : Json := .object [("b", .array [.null])]

def nestedOperations : List Json :=
  [.object [("path", .string "/a"), ("value", nestedNull), ("op", .string "add")],
    .object [("op", .string "remove"), ("path", .string "/c")]]

theorem nested_null_sent :
    Response.shape.read (.object (patchSource nestedOperations)) =
      .ok (patchResponse [⟨.add, "/a", nestedNull⟩, ⟨.remove, "/c", .null⟩]) ∧
    ∃ bytes sent, (patchResponse [⟨.add, "/a", nestedNull⟩, ⟨.remove, "/c", .null⟩]).patchDocument = some (.ok bytes) ∧
      Utf8.decode ⟨bytes.toArray⟩ = .ok ((Json.array sent).text Json.compact) ∧
      ∀ target, Json.applyDocument (.array sent) target = Json.applyDocument (.array nestedOperations) target := by
  have read : Response.shape.read (.object (patchSource nestedOperations)) =
      .ok (patchResponse [⟨.add, "/a", nestedNull⟩, ⟨.remove, "/c", .null⟩]) := by decide +kernel
  have whole : ∀ operation ∈ nestedOperations, ∀ value, operation.get? "value" = some value → value.finite = true := by
    simp [nestedOperations, nestedNull, Json.get?, lastOf, Json.finite, Json.finiteItems, Json.finiteMembers]
  have solid : ∀ operation ∈ nestedOperations, ¬ PutsNull operation := by
    simp [nestedOperations, nestedNull, PutsNull, Json.get?, lastOf]
  obtain ⟨bytes, sent, carried, text, _, sends⟩ := listed_patch_sent _ _ nestedOperations read rfl whole
  exact ⟨read, bytes, sent, carried, text, sends.alike solid⟩

def nullOperation : Json := .object [("op", .string "add"), ("path", .string "/a"), ("value", .null)]

theorem null_value_lost :
    Response.shape.read (.object (patchSource [nullOperation])) = .ok (patchResponse [⟨.add, "/a", .null⟩]) ∧
    ∃ bytes, (patchResponse [⟨.add, "/a", .null⟩]).patchDocument = some (.ok bytes) ∧
      parseDocument ⟨bytes.toArray⟩ = .ok (.array [.object [("op", .string "add"), ("path", .string "/a")]]) ∧
      Json.applyDocument (.array [.object [("op", .string "add"), ("path", .string "/a")]]) (.object []) = none ∧
      Json.applyDocument (.array [nullOperation]) (.object []) = some (.object [("a", .null)]) := by
  have fits : (shape.write [⟨.add, "/a", .null⟩]).Fits nestingRoom := by
    show (Json.array [.object [("op", .string "add"), ("path", .string "/a")]]).Fits nestingRoom
    simp [nestingRoom, Json.AllFit]
  obtain ⟨bytes, decoded, parsed⟩ := encoded_document [⟨.add, "/a", .null⟩] fits
  refine ⟨by decide +kernel, bytes, congrArg some decoded, parsed, ?_, ?_⟩
  · rfl
  · rfl

end Patch
end Gatehouse
