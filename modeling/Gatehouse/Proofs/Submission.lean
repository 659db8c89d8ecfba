import Gatehouse.Proofs.Json.Parts
import Gatehouse.Proofs.Review

/- The object of a review, in the text that was submitted and in the text that is made of it. What a policy reads is
   made of the parsed object, never of the submitted text; both are read alike, unless the submitted text gives a key
   more than once. -/
namespace Gatehouse

-- The text of the object, as it stands in the text of the review.
def submittedText (bytes : ByteArray) : Option (List Char) := do
  let text ← (Utf8.decode bytes).toOption
  let request ← lastOf (← Json.memberTexts nestingRoom text.toList) "request"
  lastOf (← Json.memberTexts nestingRoom request) "object"

theorem optional_found {α : Type} (key : String) (shape : Shape α) (members : Members) (content : α)
    (plain : snake key = key)
    (found : (∃ name json, (Field.default key (none : Option α)).find? members = some (name, json) ∧
        (Shape.optional shape).read json = .ok (some content)) ∨
      ((Field.default key (none : Option α)).find? members = none ∧
        (Field.default key (none : Option α)).absent = some (some content))) :
    ∃ json, lastOf members key = some json ∧ shape.read json = .ok content := by
  rcases found with ⟨name, json, located, read⟩ | ⟨_, absent⟩
  · have here : lastOf members key = some json := by
      cases place : lastOf members key <;> simp_all [Field.find?, Field.keys, Field.default]
    rcases (optional_read _ _ _).mp read with ⟨_, none⟩ | ⟨_, other, inner, same⟩
    · cases none
    · cases same
      exact ⟨json, here, inner⟩
  · cases absent

theorem request_source (outer : Json) (review : Review) (request : Request)
    (read : Review.shape.read outer = .ok review) (asked : review.request = some request) :
    ∃ members source, outer = .object members ∧ lastOf members "request" = some source ∧
      Request.shape.read source = .ok request := by
  cases outer with
  | object members =>
    obtain ⟨⟨version, kind, inner, response, rest⟩, found, accepted⟩ := (record_read _ _ _ _ _ _).mp read
    obtain ⟨rfl, _⟩ := (ruled_ok _ _ _).mp accepted
    obtain rfl : inner = some request := asked
    simp only [Fields.optional, fields_read_cons] at found
    obtain ⟨_, _, found, _⟩ := found
    obtain ⟨source, located, inner⟩ := optional_found _ _ _ _ (by decide) found
    exact ⟨members, source, rfl, located, inner⟩
  | _ => cases read

theorem request_object_read (inner : Json) (request : Request) (read : Request.shape.read inner = .ok request) :
    ∃ entries, inner = .object entries ∧
      ((∃ name json, (Field.default "object" (none : Option Members)).find? entries = some (name, json) ∧
          (Shape.optional (.leaf Format.members)).read json = .ok request.object) ∨
        ((Field.default "object" (none : Option Members)).find? entries = none ∧
          (Field.default "object" (none : Option Members)).absent = some request.object)) := by
  cases inner with
  | object entries =>
    obtain ⟨⟨uid, kind, resource, subResource, requestKind, name, nameSpace, operation, userInfo, object, rest⟩, found,
      accepted⟩ := (record_read _ _ _ _ _ _).mp read
    obtain ⟨rfl, _⟩ := (ruled_ok _ _ _).mp accepted
    simp only [Fields.optional, fields_read_cons] at found
    obtain ⟨_, _, _, _, _, _, _, _, _, found, _⟩ := found
    exact ⟨entries, rfl, found⟩
  | _ => cases read

theorem object_source (inner : Json) (request : Request) (members : Members)
    (read : Request.shape.read inner = .ok request) (submitted : request.object = some members) :
    ∃ entries source, inner = .object entries ∧ lastOf entries "object" = some (.object source) ∧
      (Json.object source).collapsed = .object members := by
  obtain ⟨entries, rfl, found⟩ := request_object_read inner request read
  rw [submitted] at found
  obtain ⟨json, located, taken⟩ := optional_found _ _ _ _ (by decide) found
  cases json with
  | object source => exact ⟨entries, source, rfl, located, congrArg Json.object (Except.ok.inj taken)⟩
  | _ => cases taken

theorem own_text_parsed (own : List Char) (json : Json) (read : Json.readList nestingRoom own = .ok json) :
    parseDocument (Utf8.encode (String.ofList own)) = .ok json := by
  refine (parse_document_ok _ _).mpr ⟨String.ofList own, Utf8.decode_encode _, ?_⟩
  rw [Json.read, String.toList_ofList]
  exact read

theorem last_of_filled {α : Type} (entries : List (String × α)) (key : String) (value : α)
    (found : lastOf entries key = some value) : entries ≠ [] :=
  List.ne_nil_of_mem (last_of_member entries key value found)

theorem submitted_text_parsed (bytes : ByteArray) (members entries : Members) (source : Json)
    (parsed : parseDocument bytes = .ok (.object members)) (asked : lastOf members "request" = some (.object entries))
    (submitted : lastOf entries "object" = some source) :
    ∃ text own, Utf8.decode bytes = .ok text ∧ submittedText bytes = some own ∧ own <:+: text.toList ∧
      parseDocument (Utf8.encode (String.ofList own)) = .ok source := by
  obtain ⟨text, decoded, read⟩ := (parse_document_ok _ _).mp parsed
  obtain ⟨outer, outerTexts, spelled⟩ :=
    Json.member_texts_spell nestingRoom text.toList members (last_of_filled _ _ _ asked) read
  obtain ⟨request, requestText, within⟩ := Json.last_text_spells _ _ _ _ spelled _ _ asked
  obtain ⟨inner, innerTexts, spelled⟩ :=
    Json.member_texts_spell nestingRoom request entries (last_of_filled _ _ _ submitted) within.read
  obtain ⟨own, ownText, deeper⟩ := Json.last_text_spells _ _ _ _ spelled _ _ submitted
  refine ⟨text, own, decoded, ?_, deeper.inside.trans within.inside, own_text_parsed own source deeper.read⟩
  simp [submittedText, decoded, Except.toOption, outerTexts, requestText, innerTexts, ownText]

theorem raw_object_read (request : Request) (members : Members) (submitted : request.object = some members)
    (nonempty : members ≠ []) (fits : (Json.object members).Fits nestingRoom) :
    Json.readFreely request.rawObject = .ok (.object members) := by
  have long : ((Json.object members).text Json.ascii).length = ((Json.object members).write Json.ascii).length :=
    String.length_ofList
  have read := Json.read_text Json.ascii .float Json.ascii_loses (.object members) _
    (Json.fits_text Json.ascii nestingRoom _ fits)
  rw [Json.reread_kept] at read
  rw [raw_object_text request members submitted nonempty, Json.readFreely, long]
  exact read

/-- The text made of the object is read as the object, and the object is what was submitted; when no key was repeated
    there, every class is read alike from either text. -/
theorem submitted_object_kept (bytes : ByteArray) (review : Review) (request : Request) (members : Members)
    (decoded : (Codec.decodeReview bytes).outcome = .ok review) (asked : review.request = some request)
    (submitted : request.object = some members) (nonempty : members ≠ []) :
    parseDocument (Utf8.encode request.rawObject) = .ok (.object members) ∧
      Json.readFreely request.rawObject = .ok (.object members) ∧
      ∃ text own source, Utf8.decode bytes = .ok text ∧ submittedText bytes = some own ∧ own <:+: text.toList ∧
        parseDocument (Utf8.encode (String.ofList own)) = .ok source ∧ source.collapsed = .object members ∧
        (source.unrepeated = true → source = .object members ∧ ∀ type, Codec.decodeObjectAs type request =
          Codec.decode (.resource type) (Utf8.encode (String.ofList own))) := by
  have fits := decoded_object_fits bytes review request decoded asked members submitted
  have parsed := raw_object_parsed request members submitted nonempty fits
  refine ⟨parsed, raw_object_read request members submitted nonempty fits, ?_⟩
  obtain ⟨_, valid⟩ := (Codec.decode_shape_ok _ _ _ _).mp decoded
  obtain ⟨json, outer, read⟩ := (Shape.decode_ok _ _ _ _).mp valid
  obtain ⟨fields, inner, rfl, located, inside⟩ := request_source json review request read asked
  obtain ⟨entries, source, rfl, here, collapsed⟩ := object_source inner request members inside submitted
  obtain ⟨text, own, whole, found, within, alone⟩ := submitted_text_parsed bytes fields entries _ outer located here
  refine ⟨text, own, .object source, whole, found, within, alone, collapsed, fun once => ?_⟩
  have same : Json.object source = .object members := (Json.collapsed_unrepeated _ once).symm.trans collapsed
  rw [same] at alone
  exact ⟨same, fun type => Codec.decode_shape_alike _ _ _ _ _ parsed alone⟩

def spacedObject : String :=
  "\x7b \"kind\" : \"\\ud83d\\ude00\\\"\\/\" ,\n\"é\":[NaN, 1e400,-0.0 ]\x7d"

def spacedReview : String := "\x7b\"request\" :\x7b\"object\": " ++ spacedObject ++ "\x7d \x7d"

def spacedMembers : Members :=
  [("kind", .string "😀\"/"), ("é", .array [.float .nan, .float (.infinite false), .float (.ofDecimal true ⟨0, -1⟩)])]

def spacedRequest : Request :=
  ⟨"", ⟨"", "", ""⟩, none, none, none, none, none, none, none, some spacedMembers, none, none⟩

theorem spaced_parsed : parseDocument (Utf8.encode spacedReview) =
    .ok (.object [("request", .object [("object", .object spacedMembers)])]) := by
  refine parsed_of_written _ _ ?_ (by decide +kernel)
  simp [spacedMembers, nestingRoom, Json.AllFit]

theorem spaced_object_parsed : parseDocument (Utf8.encode spacedObject) = .ok (.object spacedMembers) := by
  refine parsed_of_written _ _ ?_ (by decide +kernel)
  simp [spacedMembers, nestingRoom, Json.AllFit]

theorem spaced_text : submittedText (Utf8.encode spacedReview) = some spacedObject.toList := by
  rw [submittedText, Utf8.decode_encode]
  decide +kernel

theorem spaced_decodes : (Codec.decodeReview (Utf8.encode spacedReview)).outcome =
    .ok ⟨.v1, "AdmissionReview", some spacedRequest, none⟩ :=
  Codec.parsed_review_decodes _ _ _ spaced_parsed rfl

theorem spaced_object_kept : (Codec.decodeReview (Utf8.encode spacedReview)).outcome =
      .ok ⟨.v1, "AdmissionReview", some spacedRequest, none⟩ ∧ spacedMembers ≠ [] ∧
    parseDocument (Utf8.encode spacedRequest.rawObject) = .ok (.object spacedMembers) ∧
    ∀ type, Codec.decodeObjectAs type spacedRequest = Codec.decode (.resource type) (Utf8.encode spacedObject) := by
  have filled : spacedMembers ≠ [] := List.cons_ne_nil _ _
  obtain ⟨parsed, _, text, own, source, _, found, _, alone, _, alike⟩ :=
    submitted_object_kept _ _ spacedRequest spacedMembers spaced_decodes rfl rfl filled
  refine ⟨spaced_decodes, filled, parsed, ?_⟩
  rw [spaced_text] at found
  cases found
  rw [String.ofList_toList] at alone alike
  obtain rfl : Json.object spacedMembers = source := Except.ok.inj (spaced_object_parsed.symm.trans alone)
  exact (alike (by decide +kernel)).2

end Gatehouse
