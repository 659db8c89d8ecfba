import Gatehouse.Codec
import Gatehouse.Proofs.Json.Text

/- The text of a review tells its version, whom it answers and whether it allows: two reviews with one text agree on
   all three. -/
namespace Gatehouse

namespace Json

theorem members_first (style : Style) (key : String) (value : Json) (more : Members) : ∃ tail,
    writeMembers style ((key, value) :: more) = writeString style key ++ ':' :: (write style value ++ tail) := by
  cases more with
  | nil => exact ⟨[], by simp [writeMembers]⟩
  | cons next later => exact ⟨',' :: writeMembers style (next :: later), by simp [writeMembers]⟩

theorem members_next (style : Style) (key : String) (value : Json) (next : String × Json) (later : Members) :
    writeMembers style ((key, value) :: next :: later) =
      writeString style key ++ ':' :: (write style value ++ ',' :: writeMembers style (next :: later)) := by
  simp [writeMembers]

theorem bool_apart (style : Style) (left right : Bool) (leftRest rightRest : List Char)
    (same : write style (.bool left) ++ leftRest = write style (.bool right) ++ rightRest) : left = right := by
  cases left <;> cases right <;> simp [write] at same ⊢

end Json

namespace Response

-- What follows the mark of a response in its text.
theorem text_start (response : Response) : ∃ tail, Json.write Json.compact (shape.write response) =
    '\x7b' :: (Json.writeString Json.compact "uid" ++ ':' :: (Json.writeString Json.compact response.uid ++
      ',' :: (Json.writeString Json.compact "allowed" ++ ':' :: (Json.write Json.compact (.bool response.allowed) ++
        tail)))) := by
  have shown : ∃ more, shape.write response =
      .object (("uid", .string response.uid) :: ("allowed", .bool response.allowed) :: more) := ⟨_, rfl⟩
  obtain ⟨more, written⟩ := shown
  obtain ⟨tail, rest⟩ := Json.members_first Json.compact "allowed" (.bool response.allowed) more
  have uid : Json.write Json.compact (.string response.uid) = Json.writeString Json.compact response.uid := rfl
  refine ⟨tail ++ ['\x7d'], ?_⟩
  rw [written, Json.write, Json.members_next, rest, uid]
  simp only [List.cons_append, List.append_assoc]

theorem text_uid (left right : Response) (leftRest rightRest : List Char)
    (same : Json.write Json.compact (shape.write left) ++ leftRest =
      Json.write Json.compact (shape.write right) ++ rightRest) : left.uid = right.uid := by
  obtain ⟨leftTail, leftText⟩ := text_start left
  obtain ⟨rightTail, rightText⟩ := text_start right
  rw [leftText, rightText] at same
  simp only [List.cons_append, List.append_assoc] at same
  have uid := (Json.write_string_apart _ _ _ _ _ (List.cons.inj same).2).2
  exact (Json.write_string_apart _ _ _ _ _ (List.cons.inj uid).2).1

theorem text_allowed (left right : Response) (leftRest rightRest : List Char)
    (same : Json.write Json.compact (shape.write left) ++ leftRest =
      Json.write Json.compact (shape.write right) ++ rightRest) : left.allowed = right.allowed := by
  obtain ⟨leftTail, leftText⟩ := text_start left
  obtain ⟨rightTail, rightText⟩ := text_start right
  rw [leftText, rightText] at same
  simp only [List.cons_append, List.append_assoc] at same
  have uid := (Json.write_string_apart _ _ _ _ _ (List.cons.inj same).2).2
  have value := (Json.write_string_apart _ _ _ _ _ (List.cons.inj uid).2).2
  have key := (Json.write_string_apart _ _ _ _ _ (List.cons.inj value).2).2
  exact Json.bool_apart _ _ _ _ _ (List.cons.inj key).2

end Response

namespace Review

theorem api_version_named (left right : ApiVersion) (same : left.name = right.name) : left = right := by
  cases left <;> cases right <;> simp [ApiVersion.name] at same ⊢

theorem text_start (review : Review) (next : String × Json) (later : Members)
    (shown : shape.write review = .object (("apiVersion", .string review.apiVersion.name) ::
      ("kind", .string review.kind) :: next :: later)) : Json.write Json.compact (shape.write review) =
    '\x7b' :: (Json.writeString Json.compact "apiVersion" ++ ':' ::
      (Json.writeString Json.compact review.apiVersion.name ++ ',' :: (Json.writeString Json.compact "kind" ++ ':' ::
        (Json.writeString Json.compact review.kind ++ ',' :: (Json.writeMembers Json.compact (next :: later) ++
          ['\x7d']))))) := by
  rw [shown, Json.write, Json.members_next, Json.members_next]
  simp [Json.write]

theorem same_text_version (left right : Review) (same : Codec.encode .review left = Codec.encode .review right) :
    left.apiVersion = right.apiVersion := by
  have shown (review : Review) : ∃ more, shape.write review = .object
      (("apiVersion", .string review.apiVersion.name) :: ("kind", .string review.kind) :: more) := ⟨_, rfl⟩
  obtain ⟨leftMore, leftShown⟩ := shown left
  obtain ⟨rightMore, rightShown⟩ := shown right
  have text : Json.write Json.compact (shape.write left) = Json.write Json.compact (shape.write right) := by
    have whole := congrArg String.toList same
    simp only [Codec.encode, Shape.encode, Json.text, String.toList_ofList] at whole
    exact whole
  rw [leftShown, rightShown, Json.write, Json.write, Json.members_next, Json.members_next] at text
  simp only [List.cons_append, List.append_assoc] at text
  have value := (Json.write_string_apart _ _ _ _ _ (List.cons.inj text).2).2
  have named := (Json.write_string_apart _ _ _ _ _ (List.cons.inj value).2).1
  exact api_version_named _ _ named

theorem same_text_next (left right : Review) (leftNext rightNext : String × Json) (leftLater rightLater : Members)
    (leftShown : shape.write left = .object (("apiVersion", .string left.apiVersion.name) ::
      ("kind", .string left.kind) :: leftNext :: leftLater))
    (rightShown : shape.write right = .object (("apiVersion", .string right.apiVersion.name) ::
      ("kind", .string right.kind) :: rightNext :: rightLater))
    (same : Json.write Json.compact (shape.write left) = Json.write Json.compact (shape.write right)) :
    ∃ leftTail rightTail, leftNext.1 = rightNext.1 ∧ Json.write Json.compact leftNext.2 ++ leftTail =
      Json.write Json.compact rightNext.2 ++ rightTail := by
  rw [text_start left _ _ leftShown, text_start right _ _ rightShown] at same
  have version := (Json.write_string_apart _ _ _ _ _ (List.cons.inj same).2).2
  have name := (Json.write_string_apart _ _ _ _ _ (List.cons.inj version).2).2
  have kind := (Json.write_string_apart _ _ _ _ _ (List.cons.inj name).2).2
  have value := (Json.write_string_apart _ _ _ _ _ (List.cons.inj kind).2).2
  obtain ⟨leftTail, leftRest⟩ := Json.members_first Json.compact leftNext.1 leftNext.2 leftLater
  obtain ⟨rightTail, rightRest⟩ := Json.members_first Json.compact rightNext.1 rightNext.2 rightLater
  rw [leftRest, rightRest] at value
  simp only [List.cons_append, List.append_assoc] at value
  obtain ⟨keys, rest⟩ := Json.write_string_apart _ _ _ _ _ (List.cons.inj value).2
  exact ⟨_, _, keys, (List.cons.inj rest).2⟩

theorem same_text_response (left right : Review) (leftResponse rightResponse : Response) (bare : left.request = none)
    (leftPresent : left.response = some leftResponse) (rightPresent : right.response = some rightResponse)
    (same : Codec.encode .review left = Codec.encode .review right) : ∃ leftTail rightTail,
      Json.write Json.compact (Response.shape.write leftResponse) ++ leftTail =
        Json.write Json.compact (Response.shape.write rightResponse) ++ rightTail := by
  obtain ⟨leftVersion, leftKind, _, _⟩ := left
  obtain ⟨rightVersion, rightKind, request, _⟩ := right
  cases bare
  cases leftPresent
  cases rightPresent
  have text := congrArg String.toList same
  simp only [Codec.encode, Shape.encode, Json.text, String.toList_ofList] at text
  cases request with
  | none =>
    obtain ⟨leftTail, rightTail, _, rest⟩ := same_text_next _ _ ("response", Response.shape.write leftResponse)
      ("response", Response.shape.write rightResponse) [] [] rfl rfl text
    exact ⟨leftTail, rightTail, rest⟩
  | some asked =>
    obtain ⟨_, _, keys, _⟩ := same_text_next _ _ ("response", Response.shape.write leftResponse)
      ("request", Request.shape.write asked) [] _ rfl rfl text
    simp at keys

section

variable (left right : Review) (leftResponse rightResponse : Response) (bare : left.request = none)
  (leftPresent : left.response = some leftResponse) (rightPresent : right.response = some rightResponse)
  (same : Codec.encode .review left = Codec.encode .review right)

include bare leftPresent rightPresent same

theorem same_text_uid : leftResponse.uid = rightResponse.uid := by
  obtain ⟨_, _, rest⟩ := same_text_response left right leftResponse rightResponse bare leftPresent rightPresent same
  exact Response.text_uid _ _ _ _ rest

theorem same_text_allowed : leftResponse.allowed = rightResponse.allowed := by
  obtain ⟨_, _, rest⟩ := same_text_response left right leftResponse rightResponse bare leftPresent rightPresent same
  exact Response.text_allowed _ _ _ _ rest

end

end Review
end Gatehouse
