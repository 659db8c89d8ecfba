import Gatehouse.Endpoint.Basic
import Gatehouse.Proofs.Json.Written
import Gatehouse.Proofs.Reencoding

/- Responses. A response that has come through the validators carries a patch exactly when it carries a type of patch,
   and the text of the patch is one that the validators take, unless the patch was given as operations that nest
   deeper than a document may. A review is read back from the text of its answer exactly when its response has a
   patch that is taken and a status code that is short enough for a document. -/
namespace Gatehouse

theorem text_keeps (room : Nat) (text : String) : textShape.Keeps room text := ⟨.string room text, rfl⟩

theorem option_keeps {α : Type} (inner : Shape α) (room : Nat) (value : Option α) (solid : inner.Solid)
    (every : ∀ content, value = some content → inner.Keeps room content) : (Shape.optional inner).Keeps room value := by
  cases value with
  | none => exact ⟨.null room, rfl⟩
  | some content => exact optional_keeps inner room content solid (every content rfl)

theorem named_keeps {α : Type} (values : List α) (name : α → String) (room : Nat) (value : α)
    (found : (values.find? fun other => name other == name value) = some value) :
    (Shape.leaf (Format.named values name)).Keeps room value := by
  refine ⟨.string room (name value), ?_⟩
  simp only [Shape.read, Shape.write, Format.named, found]

-- A document is parsed only if its value fits.
theorem parsed_document_fits (json found : Json)
    (parsed : parseDocument (Utf8.encode (json.text Json.compact)) = .ok found) :
    json.Fits nestingRoom ∧ found = json.restored := by
  obtain ⟨text, same, read⟩ := (parse_document_ok _ _).mp parsed
  rw [Utf8.decode_encode, Except.ok.injEq] at same
  rw [← same] at read
  exact Json.read_written Json.compact _ Json.compact_loses nestingRoom json found read

namespace Patch

-- A text that the validators take as the text of a patch.
def Taken (text : String) : Prop := ∃ patch, ofText text = .ok patch

theorem taken_checked (text : String) : Taken text ↔ checkText text = .ok (some text) := by
  rw [checkText]
  cases read : ofText text <;> simp [Taken, read, Checked.fault]

theorem encode_taken (patch : Patch) : Taken patch.encode ↔ (shape.write patch).Fits nestingRoom := by
  constructor
  · rintro ⟨read, decoded⟩
    rw [ofText, encode, Base64.decode, Base64.decode_list_encode] at decoded
    dsimp only at decoded
    rw [Utf8.bytes_of_list] at decoded
    split at decoded
    · cases decoded
    · rename_i found accepted
      obtain ⟨json, parsed, _⟩ := (Shape.decode_ok _ _ _ _).mp accepted
      exact (parsed_document_fits (shape.write patch) json parsed).1
  · intro fits
    exact (taken_checked _).mpr (encoded_accepted patch fits)

theorem taken_filled (text : String) (taken : Taken text) : text ≠ "" := by
  rintro rfl
  obtain ⟨patch, read⟩ := taken
  have nothing : (ofText "").toBool = false := by decide +kernel
  rw [read] at nothing
  cases nothing

theorem encode_filled (patch : Patch) : patch.encode ≠ "" := by
  intro empty
  have back := Base64.decode_list_encode true (Utf8.encode patch.document).toList
  rw [encode] at empty
  rw [empty] at back
  have bytes : [] = (Utf8.encode patch.document).toList := Except.ok.inj back
  have filled := Codec.json_text_filled Json.compact _ Json.compact_loses (shape.write patch)
  have document : Utf8.encode ((shape.write patch).text Json.compact) = ⟨[].toArray⟩ := by
    rw [bytes, Utf8.bytes_of_list]
    rfl
  rw [document] at filled
  cases filled

end Patch

theorem status_keeps (room : Nat) (status : Status) (short : ∀ code, status.code = some code → Json.ShortInt code) :
    Status.shape.Keeps (room + 1) status := by
  refine record_keeps _ _ _ _ status_lawful room status (status.message, status.reason, status.code, ()) rfl ?_
  exact ⟨text_keeps room _, option_keeps _ _ _ text_solid fun text _ => text_keeps room text,
    option_keeps _ _ _ (fun _ => rfl) fun code given => ⟨.int room code (short code given), rfl⟩, trivial⟩

namespace Response

/- What is wanted of a response for its answer to be read back. -/

structure Readable (response : Response) : Prop where
  ruled : response.patchRule = none
  taken : ∀ text, response.patch = some text → Patch.Taken text
  short : ∀ status code, response.result = some status → status.code = some code → Json.ShortInt code

theorem patch_keeps (room : Nat) (patch : Option String) (taken : ∀ text, patch = some text → Patch.Taken text) :
    (Shape.leaf (Patch.carried Patch.readCarried)).Keeps room patch := by
  cases patch with
  | none => exact ⟨.null room, rfl⟩
  | some text => exact ⟨.string room text, (Patch.taken_checked text).mp (taken text rfl)⟩

theorem readable_keeps (room : Nat) (response : Response) (readable : response.Readable) :
    shape.Keeps (room + 2) response := by
  refine record_keeps _ _ _ _ response_lawful (room + 1) response (response.uid, response.allowed, response.result,
    response.patch, response.patchType, response.warnings, ()) ((ruled_ok _ _ _).mpr ⟨rfl, readable.ruled⟩) ?_
  refine ⟨text_keeps _ _, ⟨.bool _ _, rfl⟩, ?_, patch_keeps _ _ readable.taken, ?_, ?_, trivial⟩
  · exact option_keeps _ _ _ (record_solid _ _ _ _) fun status given =>
      status_keeps room status fun code coded => readable.short status code given coded
  · exact option_keeps _ _ _ (fun _ => rfl) fun type _ => named_keeps _ _ _ type (by cases type; decide +kernel)
  · exact option_keeps _ _ _ (fun _ => rfl) fun warnings _ =>
      list_keeps _ _ warnings fun text _ => text_keeps room text

theorem plain_readable (response : Response) (bare : response.patch = none) (untyped : response.patchType = none)
    (uncoded : ∀ status, response.result = some status → status.code = none) : response.Readable where
  ruled := by simp [patchRule, bare, untyped]
  taken := by simp [bare]
  short := by
    intro status code given coded
    rw [uncoded status given] at coded
    cases coded

-- A readable response carries a patch exactly when it carries a type of patch.
theorem readable_typed (response : Response) (readable : response.Readable) :
    response.patch.isSome = response.patchType.isSome := by
  have ruled := readable.ruled
  unfold patchRule at ruled
  cases carried : response.patch with
  | none => cases typed : response.patchType <;> simp [carried, typed] at ruled ⊢
  | some text =>
    have filled := Patch.taken_filled text (readable.taken text carried)
    cases typed : response.patchType <;> simp [carried, typed, filled] at ruled ⊢

/- The validators. A response is accepted from a value whose patch is a text or a list of operations, from one whose
   patch is given as bytes, or with a patch that has been read before. -/

inductive Accepted (response : Response) : Prop where
  | given (value : Json) (read : shape.read value = .ok response)
  | bytes (bytes : ByteArray) (value : Json) (read : readWithPatch bytes value = .ok response)
  | patch (patch : Patch) (value : Json) (read : (shapeWith fun _ => .ok (some patch.encode)).read value = .ok response)

-- Something in a response that no document has room for.
inductive Overgrown (response : Response) : Prop where
  | code (status : Status) (code : Int) (given : response.result = some status) (coded : status.code = some code)
    (long : ¬ Json.ShortInt code)
  | patch (patch : Patch) (carried : response.patch = some patch.encode)
    (deep : ¬ (Patch.shape.write patch).Fits nestingRoom)

-- A response is ruled, and the text that it carries is one that its patch was read as.
theorem shape_with_source (readPatch : Json → Checked (Option String)) (value : Json) (response : Response)
    (sent : String → Prop) (sources : ∀ json text, readPatch json = .ok (some text) → sent text)
    (read : (shapeWith readPatch).read value = .ok response) :
    response.patchRule = none ∧ ∀ text, response.patch = some text → sent text := by
  cases value with
  | object members =>
    obtain ⟨whole, found, accepted⟩ := (record_read _ _ _ _ _ _).mp read
    obtain ⟨rfl, ruled⟩ := (ruled_ok _ _ _).mp accepted
    obtain ⟨uid, allowed, result, patch, rest⟩ := whole
    obtain ⟨_, found⟩ := (fields_read_cons _ _ _ _ _ _).mp found
    obtain ⟨_, found⟩ := (fields_read_cons _ _ _ _ _ _).mp found
    obtain ⟨_, found⟩ := (fields_read_cons _ _ _ _ _ _).mp found
    obtain ⟨source, _⟩ := (fields_read_cons _ _ _ _ _ _).mp found
    refine ⟨ruled, fun text carried => ?_⟩
    obtain rfl : patch = some text := carried
    rcases source with ⟨_, json, _, read⟩ | ⟨_, absent⟩
    · exact sources json text read
    · cases absent
  | _ => cases read

theorem checked_taken (text carried : String) (checked : Patch.checkText text = .ok (some carried)) :
    Patch.Taken carried := by
  obtain rfl : carried = text := Option.some.inj (Patch.check_text_keeps text _ checked)
  exact (Patch.taken_checked carried).mpr checked

-- What an accepted response carries is a text that was taken or the text of operations.
theorem accepted_patch (response : Response) (accepted : response.Accepted) : response.patchRule = none ∧
    ∀ text, response.patch = some text → Patch.Taken text ∨ ∃ patch : Patch, text = patch.encode := by
  cases accepted with
  | given value read =>
    refine shape_with_source _ value response _ (fun json text read => ?_) read
    cases json with
    | string given => exact .inl (checked_taken given text read)
    | array items =>
      obtain ⟨patch, _, same⟩ := (map_ok _ _ _).mp read
      exact .inr ⟨patch, (Option.some.inj same).symm⟩
    | _ => cases read
  | bytes bytes value read =>
    cases value with
    | object members =>
      refine shape_with_source _ _ response _ (fun json text read => .inl ?_) read
      unfold Patch.checkBytes at read
      split at read
      · cases read
      · rename_i decoded _
        exact checked_taken decoded text read
    | _ => cases read
  | patch patch value read =>
    exact shape_with_source _ value response _
      (fun json text read => .inr ⟨patch, (Option.some.inj (Except.ok.inj read)).symm⟩) read

theorem readable_within (response : Response) (readable : response.Readable) : ¬ response.Overgrown := by
  intro overgrown
  cases overgrown with
  | code status code given coded long => exact long (readable.short status code given coded)
  | patch patch carried deep => exact deep ((Patch.encode_taken patch).mp (readable.taken _ carried))

theorem accepted_readable (response : Response) (accepted : response.Accepted) (within : ¬ response.Overgrown) :
    response.Readable where
  ruled := (accepted_patch response accepted).1
  taken := by
    intro text carried
    rcases (accepted_patch response accepted).2 text carried with taken | ⟨patch, rfl⟩
    · exact taken
    · refine (Patch.encode_taken patch).mpr ?_
      by_contra deep
      exact within (.patch patch carried deep)
  short := by
    intro status code given coded
    by_contra long
    exact within (.code status code given coded long)

-- Whatever a response is read back as, the validators have taken the patch that it carries.
theorem reread_taken (response found : Response) (text : String) (carried : response.patch = some text)
    (read : shape.read (shape.write response) = .ok found) : Patch.Taken text := by
  obtain ⟨_, distinct, _⟩ := response_lawful
  obtain ⟨whole, parts, _⟩ := (record_read _ _ _ _ _ found).mp read
  obtain ⟨uid, allowed, result, patch, rest⟩ := whole
  have distinctAfter := keys_apart _ _ _ distinct
  obtain ⟨_, _, foreign, parts⟩ := shown_part_read _ _ _ _ _ _ _ [] distinct (fun _ _ => rfl) parts
  obtain ⟨_, _, foreign, parts⟩ := shown_part_read _ _ _ _ _ _ _ _ distinctAfter.1 foreign parts
  have distinctLater := keys_apart _ _ _ distinctAfter.1
  obtain ⟨_, _, foreign, parts⟩ := shown_part_read _ _ _ _ _ _ _ _ distinctLater.1 foreign parts
  obtain ⟨own, _⟩ := shown_part_read _ _ _ _ _ _ _ _ (keys_apart _ _ _ distinctLater.1).1 foreign parts
  rw [carried] at own
  have checked : Patch.checkText text = .ok patch := own rfl
  exact (Patch.taken_checked text).mpr (Patch.check_text_keeps text patch checked ▸ checked)

end Response

/- Answers. -/

theorem answer_keeps (room : Nat) (apiVersion : ApiVersion) (response : Response) (readable : response.Readable) :
    Review.shape.Keeps (room + 3) (Endpoint.answerWith apiVersion response) := by
  refine record_keeps _ _ _ _ review_lawful (room + 2) _ (apiVersion, Review.title, none, some response, ()) rfl ?_
  refine ⟨named_keeps _ _ _ apiVersion (by cases apiVersion <;> decide +kernel), text_keeps _ _, ⟨.null _, rfl⟩, ?_,
    trivial⟩
  exact option_keeps _ _ _ (record_solid _ _ _ _) fun content same => by
    cases same
    exact Response.readable_keeps room response readable

theorem answer_written (apiVersion : ApiVersion) (response : Response) :
    Review.shape.write (Endpoint.answerWith apiVersion response) = .object [("apiVersion", .string apiVersion.name),
      ("kind", .string Review.title), ("response", Response.shape.write response)] := rfl

theorem answer_finite (apiVersion : ApiVersion) (response : Response) :
    (Review.shape.write (Endpoint.answerWith apiVersion response)).finite = true := by
  simp [answer_written, Json.finite, Json.finiteMembers, response_finite Patch.readCarried response, Response.shape]

end Gatehouse
