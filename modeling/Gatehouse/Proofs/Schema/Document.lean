import Gatehouse.Proofs.Schema.Shape

/- Documents. What a lawful shape decoded is encoded as a document that decodes to the same value, unless a number in
   it is not finite. -/
namespace Gatehouse

theorem parse_document_ok (bytes : ByteArray) (json : Json) : parseDocument bytes = .ok json ↔
    ∃ text, Utf8.decode bytes = .ok text ∧ Json.read nestingRoom text = .ok json := by
  unfold parseDocument
  cases Utf8.decode bytes with
  | error failure => simp
  | ok text => cases read : Json.read nestingRoom text <;> simp [read]

theorem parsed_fits (bytes : ByteArray) (json : Json) (parsed : parseDocument bytes = .ok json) :
    json.Fits nestingRoom := by
  obtain ⟨text, _, read⟩ := (parse_document_ok bytes json).mp parsed
  exact Json.read_fits nestingRoom text json read

theorem parsed_filled (bytes : ByteArray) (json : Json) (parsed : parseDocument bytes = .ok json) :
    bytes.isEmpty = false := by
  cases empty : bytes.isEmpty with
  | false => rfl
  | true =>
    have nothing : bytes = ByteArray.empty := by
      rw [ByteArray.isEmpty] at empty
      exact ByteArray.size_eq_zero_iff.mp (by simpa using empty)
    rw [nothing] at parsed
    cases parsed

-- What a document of this value is parsed as.
def Json.restored (json : Json) : Json := json.reread fun _ => .null

theorem parse_written (json : Json) (fits : json.Fits nestingRoom) :
    parseDocument (Utf8.encode (json.text Json.compact)) = .ok json.restored := by
  have read := Json.read_text Json.compact _ Json.compact_loses json nestingRoom fits
  exact (parse_document_ok _ _).mpr ⟨_, Utf8.decode_encode _, read⟩

-- What a text is parsed as, by what is written of it.
theorem parsed_of_written (text : String) (json : Json) (fits : json.Fits nestingRoom)
    (written : (Json.read nestingRoom text).toOption.map (Json.write Json.ascii) = some (json.write Json.ascii)) :
    parseDocument (Utf8.encode text) = .ok json := by
  cases read : Json.read nestingRoom text with
  | error failure => simp [read, Except.toOption] at written
  | ok found =>
    simp only [read, Except.toOption, Option.map_some, Option.some.injEq] at written
    obtain rfl := Json.write_determines nestingRoom found json (Json.read_fits _ _ _ read) fits written
    exact (parse_document_ok _ _).mpr ⟨text, Utf8.decode_encode text, read⟩

namespace Shape

theorem decode_ok {α : Type} (shape : Shape α) (title : String) (bytes : ByteArray) (value : α) :
    shape.decode title bytes = .ok value ↔ ∃ json, parseDocument bytes = .ok json ∧ shape.read json = .ok value := by
  unfold decode validate
  cases parseDocument bytes with
  | error failure => simp
  | ok json => cases read : shape.read json <;> simp [read, titled]

theorem decode_written {α : Type} (shape : Shape α) (title : String) (value : α) (keeps : shape.Keeps nestingRoom value)
    (whole : (shape.write value).finite = true) :
    shape.decode title (Utf8.encode (shape.encode value)) = .ok value := by
  have parsed := parse_written (shape.write value) keeps.1
  rw [Json.restored, Json.reread_finite _ _ whole] at parsed
  exact (decode_ok shape title _ value).mpr ⟨_, parsed, keeps.2⟩

theorem decoded_keeps {α : Type} (shape : Shape α) (lawful : shape.Lawful) (shallow : shape.height ≤ nestingRoom)
    (title : String) (bytes : ByteArray) (value : α) (decoded : shape.decode title bytes = .ok value) :
    shape.Keeps nestingRoom value := by
  obtain ⟨json, parsed, read⟩ := (decode_ok shape title bytes value).mp decoded
  exact shape_keeps shape lawful nestingRoom json value (Nat.le_refl _) shallow (parsed_fits bytes json parsed) read

end Shape
end Gatehouse
