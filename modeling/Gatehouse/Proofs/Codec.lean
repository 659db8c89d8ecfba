import Gatehouse.Proofs.Target

/- What the codec decodes, it encodes as a document that decodes to the same value: whatever the keys that the fields
   were given under, whatever was filled in for them, and in whatever form the patch came. -/
namespace Gatehouse

theorem Utf8.encode_is_empty (text : String) : (encode text).isEmpty = text.isEmpty := by
  simp [encode, ByteArray.isEmpty, String.isEmpty]

namespace Codec

theorem decode_shape_ok {α : Type} (shape : Shape α) (title : String) (bytes : ByteArray) (value : α) :
    (decodeShape shape title bytes).outcome = .ok value ↔
      bytes.isEmpty = false ∧ shape.decode title bytes = .ok value := by
  unfold decodeShape
  cases bytes.isEmpty with
  | true => simp [Told.fail]
  | false => cases shape.decode title bytes <;> simp [pure, bind, Told.andThen, Told.tell, Told.fail]

theorem decode_shape_quiet {α : Type} (shape : Shape α) (title : String) (bytes : ByteArray) (value : α)
    (filled : bytes.isEmpty = false) (decoded : shape.decode title bytes = .ok value) :
    decodeShape shape title bytes = pure value := by
  rw [decodeShape, filled, decoded]
  rfl

-- Documents that are parsed alike are decoded alike, their reports and what is told of them included.
theorem decode_shape_alike {α : Type} (shape : Shape α) (title : String) (bytes other : ByteArray) (json : Json)
    (parsed : parseDocument bytes = .ok json) (alike : parseDocument other = .ok json) :
    decodeShape shape title bytes = decodeShape shape title other := by
  have decoded : shape.decode title bytes = shape.decode title other := by
    rw [Shape.decode, Shape.decode, parsed, alike]
  rw [decodeShape, decodeShape, parsed_filled bytes json parsed, parsed_filled other json alike, decoded]

theorem parsed_decodes {α : Type} (shape : Shape α) (title : String) (bytes : ByteArray) (source : Json) (value : α)
    (parsed : parseDocument bytes = .ok source) (read : shape.read source = .ok value) :
    (decodeShape shape title bytes).outcome = .ok value :=
  (decode_shape_ok _ _ _ _).mpr ⟨parsed_filled bytes source parsed, (Shape.decode_ok _ _ _ _).mpr ⟨source, parsed, read⟩⟩

theorem parsed_review_decodes (bytes : ByteArray) (source : Json) (review : Review)
    (parsed : parseDocument bytes = .ok source) (read : Review.shape.read source = .ok review) :
    (decodeReview bytes).outcome = .ok review :=
  parsed_decodes _ _ bytes source review parsed read

theorem json_text_filled (style : Json.Style) (lost : Binary64 → Json) (loses : style.Loses lost) (json : Json) :
    (Utf8.encode (json.text style)).isEmpty = false := by
  obtain ⟨c, tail, same, _⟩ := Json.write_start style lost loses json
  rw [Utf8.encode_is_empty, Json.text, same]
  cases text : (String.ofList (c :: tail)).isEmpty with
  | false => rfl
  | true =>
    have nothing := congrArg String.toList (String.isEmpty_iff.mp text)
    simp at nothing

theorem written_decodes {α : Type} (shape : Shape α) (title : String) (source : Json) (value : α)
    (fits : source.Fits nestingRoom) (whole : source.finite = true) (read : shape.read source = .ok value) :
    (decodeShape shape title (Utf8.encode (source.text Json.compact))).outcome = .ok value := by
  have parsed := parse_written source fits
  rw [Json.restored, Json.reread_finite _ _ whole] at parsed
  exact parsed_decodes shape title _ source value parsed read

theorem written_review_decodes (source : Json) (review : Review) (fits : source.Fits nestingRoom)
    (whole : source.finite = true) (read : Review.shape.read source = .ok review) :
    (decodeReview (Utf8.encode (source.text Json.compact))).outcome = .ok review :=
  written_decodes _ _ source review fits whole read

theorem document_round_trip (target : Target) (bytes : ByteArray) (value : target.Carrier)
    (decoded : (decode target bytes).outcome = .ok value) (whole : (target.shape.write value).finite = true) :
    decode target (Utf8.encode (encode target value)) = pure value := by
  obtain ⟨_, read⟩ := (decode_shape_ok _ _ _ _).mp decoded
  have keeps := target.shape.decoded_keeps target.shape_lawful target.shape_shallow _ bytes value read
  exact decode_shape_quiet _ _ _ value (json_text_filled _ _ Json.compact_loses _)
    (target.shape.decode_written _ value keeps whole)

def aliasedSource : Json :=
  .object [("result", .object [("code", .string " +0_7"), ("reason", .null)]), ("allowed", .string "Yes"),
    ("patch", .array [.object [("path", .string "/a"), ("op", .string "add"), ("value", .array [.bool true, .null])]]),
    ("patch_type", .string "JSONPatch"), ("warnings", .null)]

def aliasedResponse : Response :=
  ⟨"", true, some ⟨"", none, some 7⟩, some (Patch.encode [⟨.add, "/a", .array [.bool true, .null]⟩]), some .jsonPatch,
    none⟩

theorem aliased_decodes : (decode .response (Utf8.encode (aliasedSource.text Json.compact))).outcome =
    .ok aliasedResponse := by
  have fits : aliasedSource.Fits nestingRoom := by simp [aliasedSource, nestingRoom, Json.AllFit]
  exact written_decodes _ _ aliasedSource aliasedResponse fits rfl (by decide +kernel)

theorem aliased_round_trip : (decode .response (Utf8.encode (aliasedSource.text Json.compact))).outcome =
    .ok aliasedResponse ∧ (Response.shape.write aliasedResponse).finite = true ∧
      decode .response (Utf8.encode (encode .response aliasedResponse)) = pure aliasedResponse := by
  have whole : (Response.shape.write aliasedResponse).finite = true := by decide +kernel
  exact ⟨aliased_decodes, whole, document_round_trip .response _ aliasedResponse aliased_decodes whole⟩

end Codec
end Gatehouse
