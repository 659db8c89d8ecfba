import Gatehouse.Proofs.Codec
import Gatehouse.Proofs.Json.Written

/- The object of a decoded review. It has every key once at every depth, and its text is read as the same object. -/
namespace Gatehouse

theorem decoded_review_keeps (bytes : ByteArray) (review : Review)
    (decoded : (Codec.decodeReview bytes).outcome = .ok review) : Review.shape.Keeps nestingRoom review := by
  obtain ⟨_, read⟩ := (Codec.decode_shape_ok _ _ _ _).mp decoded
  exact Review.shape.decoded_keeps review_lawful (Target.shape_shallow .review) _ bytes review read

theorem decoded_request_keeps (bytes : ByteArray) (review : Review) (request : Request)
    (decoded : (Codec.decodeReview bytes).outcome = .ok review) (asked : review.request = some request) :
    (Shape.optional Request.shape).Keeps 199 (some request) := by
  have keep := record_parts_keep _ _ _ _ review_lawful 199 review (by decide) (by decide)
    (decoded_review_keeps bytes review decoded)
  obtain ⟨_, _, keeps, _⟩ := keep
  rwa [asked] at keeps

theorem optional_content_keeps {α : Type} (inner : Shape α) (room : Nat) (content : α)
    (keeps : (Shape.optional inner).Keeps room (some content)) : inner.Keeps room content := by
  obtain ⟨fits, read⟩ := keeps
  rw [Shape.write, optional_read] at read
  rcases read with ⟨_, same⟩ | ⟨_, value, found, same⟩
  · cases same
  · cases same
    exact ⟨fits, found⟩

theorem decoded_object_keeps (bytes : ByteArray) (review : Review) (request : Request) (members : Members)
    (decoded : (Codec.decodeReview bytes).outcome = .ok review) (asked : review.request = some request)
    (submitted : request.object = some members) : (Shape.leaf Format.members).Keeps 198 members := by
  have keeps := optional_content_keeps _ _ _ (decoded_request_keeps bytes review request decoded asked)
  have keep := record_parts_keep _ _ _ _ request_lawful 198 request (by decide) (by decide) keeps
  obtain ⟨_, _, _, _, _, _, _, _, _, object, _⟩ := keep
  rw [submitted] at object
  exact optional_content_keeps _ _ _ object

theorem raw_object_text (request : Request) (members : Members) (submitted : request.object = some members)
    (nonempty : members ≠ []) : request.rawObject = (Json.object members).text Json.ascii := by
  obtain ⟨first, rest, rfl⟩ := List.exists_cons_of_ne_nil nonempty
  rw [Request.rawObject, submitted]

theorem raw_object_parsed (request : Request) (members : Members) (submitted : request.object = some members)
    (nonempty : members ≠ []) (fits : (Json.object members).Fits nestingRoom) :
    parseDocument (Utf8.encode request.rawObject) = .ok (.object members) := by
  have read := Json.read_text Json.ascii .float Json.ascii_loses (.object members) nestingRoom fits
  rw [Json.reread_kept] at read
  rw [raw_object_text request members submitted nonempty]
  exact (parse_document_ok _ _).mpr ⟨_, Utf8.decode_encode _, read⟩

theorem raw_object_empty (request : Request) (bare : request.object = none ∨ request.object = some []) :
    (Utf8.encode request.rawObject).isEmpty = true := by
  have text : request.rawObject = "" := by
    rcases bare with missing | empty
    · rw [Request.rawObject, missing]
    · rw [Request.rawObject, empty]
  rw [text]
  rfl

-- An object is read as one of a class from the members that were submitted, never from none.
theorem decoded_as_submitted (type : ResourceClass) (request : Request) (object : Object type.Spec)
    (decoded : (Codec.decodeObjectAs type request).outcome = .ok object) :
    ∃ members, request.object = some members ∧ members ≠ [] ∧ type.shape.read (.object members) = .ok object := by
  obtain ⟨filled, decoded⟩ := (Codec.decode_shape_ok _ _ _ _).mp decoded
  cases submitted : request.object with
  | none => exact absurd (raw_object_empty request (.inl submitted)) (by simp [filled])
  | some members =>
    have nonempty : members ≠ [] := by
      rintro rfl
      exact absurd (raw_object_empty request (.inr submitted)) (by simp [filled])
    obtain ⟨json, parsed, read⟩ := (Shape.decode_ok _ _ _ _).mp decoded
    obtain ⟨text, same, found⟩ := (parse_document_ok _ _).mp parsed
    rw [Utf8.decode_encode, raw_object_text request members submitted nonempty] at same
    cases same
    obtain ⟨_, rfl⟩ := Json.read_written Json.ascii .float Json.ascii_loses nestingRoom _ _ found
    rw [Json.reread_kept] at read
    exact ⟨members, rfl, nonempty, read⟩

theorem decode_object_as_ok (type : ResourceClass) (request : Request) (object : Object type.Spec)
    (fits : ∀ members, request.object = some members → (Json.object members).Fits nestingRoom) :
    (Codec.decodeObjectAs type request).outcome = .ok object ↔
      ∃ members, request.object = some members ∧ members ≠ [] ∧ type.shape.read (.object members) = .ok object := by
  constructor
  · exact decoded_as_submitted type request object
  · rintro ⟨members, submitted, nonempty, read⟩
    have parsed := raw_object_parsed request members submitted nonempty (fits members submitted)
    refine (Codec.decode_shape_ok _ _ _ _).mpr ⟨?_, (Shape.decode_ok _ _ _ _).mpr ⟨_, parsed, read⟩⟩
    rw [raw_object_text request members submitted nonempty]
    exact Codec.json_text_filled Json.ascii .float Json.ascii_loses _

theorem decoded_object_fits (bytes : ByteArray) (review : Review) (request : Request)
    (decoded : (Codec.decodeReview bytes).outcome = .ok review) (asked : review.request = some request)
    (members : Members) (submitted : request.object = some members) : (Json.object members).Fits nestingRoom :=
  Json.fits_more _ _ _ (decoded_object_keeps bytes review request members decoded asked submitted).1 (by decide)

theorem decoded_object_settled (bytes : ByteArray) (review : Review) (request : Request) (members : Members)
    (decoded : (Codec.decodeReview bytes).outcome = .ok review) (asked : review.request = some request)
    (submitted : request.object = some members) : (Json.object members).collapsed = .object members := by
  have read := (decoded_object_keeps bytes review request members decoded asked submitted).2
  exact congrArg Json.object (Except.ok.inj read)

end Gatehouse
