import Gatehouse.Proofs.Schema.Shape

/- Lawful fields, by what is filled in when they are left out. -/
namespace Gatehouse

theorem record_solid {α β : Type} (fields : Fields β) (build : β → α) (parts : α → β) (rule : α → Option Fault) :
    (Shape.record fields build parts rule).Solid := fun _ => rfl

theorem required_lawful {α β : Type} (key : String) (shape : Shape α) (rest : Fields β) (lawful : shape.Lawful)
    (solid : shape.Solid) (later : rest.Lawful) : (Fields.cons (.required key) shape rest).Lawful := by
  refine ⟨lawful, later, ?_, ?_⟩
  · rintro value ⟨⟩
  · intro value null
    exact absurd null (by simp [solid value])

theorem optional_lawful {α β : Type} (field : Field (Option α)) (shape : Shape α) (rest : Fields β)
    (absent : field.absent = some none) (lawful : shape.Lawful) (solid : shape.Solid) (later : rest.Lawful) :
    (Fields.cons field (.optional shape) rest).Lawful := by
  refine ⟨⟨lawful, solid⟩, later, ?_, ?_⟩
  · intro value same
    rw [absent] at same
    cases same
    exact ⟨.null, .null, rfl⟩
  · intro value null
    cases value with
    | none => exact absent
    | some content => exact absurd null (by simp [Shape.write, solid content])

theorem default_lawful {α β : Type} (key : String) (absent : α) (shape : Shape α) (rest : Fields β)
    (lawful : shape.Lawful) (solid : shape.Solid)
    (source : ∃ json, (∀ room, json.Fits room) ∧ shape.read json = .ok absent) (later : rest.Lawful) :
    (Fields.cons (.default key absent) shape rest).Lawful := by
  refine ⟨lawful, later, ?_, ?_⟩
  · rintro value ⟨⟩
    exact source
  · intro value null
    exact absurd null (by simp [solid value])

theorem anything_lawful {β : Type} (key : String) (rest : Fields β) (later : rest.Lawful) :
    (Fields.cons (.default key .null) (.leaf Format.anything) rest).Lawful := by
  refine ⟨Format.anything_faithful, later, ?_, ?_⟩
  · rintro value ⟨⟩
    exact ⟨.null, .null, rfl⟩
  · intro value null
    cases value with
    | null => rfl
    | _ => cases null

-- A value that an empty object is read as.
theorem empty_object_source {α : Type} (shape : Shape α) (value : α) (read : shape.read (.object []) = .ok value) :
    ∃ json, (∀ room, json.Fits room) ∧ shape.read json = .ok value :=
  ⟨.object [], .noMembers, read⟩

end Gatehouse
