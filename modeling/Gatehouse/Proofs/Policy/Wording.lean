import Gatehouse.Policy.Catalogue
import Gatehouse.Proofs.Journal
import Gatehouse.Proofs.Policy.LoadBalancer
import Gatehouse.Proofs.Policy.PodAnnotations

/- What policies say when they are configured: they refuse an object for what it is or lacks and never for a setting of
   their own. A misconfiguration is told in words that open as no other wording does. -/
namespace Gatehouse

-- As much of a wording as tells a misconfiguration from anything else.
def opening (text : String) : List Char := text.toList.take 8

/-- A text that opens otherwise than what is said of a misconfiguration. -/
def Innocent (text : String) : Prop := opening text ≠ "the vali".toList ∧ opening text ≠ "cannot v".toList

instance (text : String) : Decidable (Innocent text) := inferInstanceAs (Decidable (_ ∧ _))

theorem opening_append (words rest : String) (long : 8 ≤ words.toList.length) :
    opening (words ++ rest) = opening words := by
  rw [opening, opening, String.toList_append, List.take_append_of_le_length long]

-- A wording opens with its first words, whatever its slots are filled with.
theorem opening_worded (message : Message) (value words : String) (rest : List Piece)
    (pieces : message.pieces = .words words :: rest) (long : 8 ≤ words.toList.length) :
    opening (message.withValue value) = opening words := by
  rw [Message.withValue, pieces, List.map_cons, String.join_cons]
  exact opening_append words _ long

theorem innocent_apart (text : String) (innocent : Innocent text) :
    (∀ key, text ≠ (Misconfiguration.nilPredicate key).message) ∧
      ∀ provider, text ≠ (Misconfiguration.unsupportedProvider provider).message := by
  constructor
  · rintro key rfl
    exact innocent.1 ((opening_worded .nilPredicate key _ _ rfl (by decide +kernel)).trans (by decide +kernel))
  · rintro provider rfl
    exact innocent.2
      ((opening_worded .unsupportedProvider provider _ _ rfl (by decide +kernel)).trans (by decide +kernel))

theorem innocent_worded (message : Message) (value words : String) (rest : List Piece)
    (pieces : message.pieces = .words words :: rest) (long : 8 ≤ words.toList.length) (innocent : Innocent words) :
    Innocent (message.withValue value) := by
  rw [Innocent, opening_worded message value words rest pieces long]
  exact innocent

-- How the refusals open that lie in the object, in the review or in the body that brought it, and how a response opens
-- that exempts no namespace.
def openings : List (List Char) :=
  ["", "cannot d", "could no", "received", "Ingress ", "Service ", "the subm", "the requ", "no reque", "decoding",
    "object w"].map String.toList

/-- A text that opens as refusals do. -/
def Usual (text : String) : Prop := opening text ∈ openings

instance (text : String) : Decidable (Usual text) := inferInstanceAs (Decidable (_ ∈ _))

theorem usual_append (words rest : String) (long : 8 ≤ words.toList.length) (usual : Usual words) :
    Usual (words ++ rest) := by
  rw [Usual, opening_append words rest long]
  exact usual

theorem usual_worded (message : Message) (value words : String) (rest : List Piece)
    (pieces : message.pieces = .words words :: rest) (long : 8 ≤ words.toList.length) (usual : Usual words) :
    Usual (message.withValue value) := by
  rw [Usual, opening_worded message value words rest pieces long]
  exact usual

theorem usual_extended (message : Message) (value more words : String) (rest : List Piece)
    (pieces : message.pieces = .words words :: rest) (long : 8 ≤ words.toList.length) (usual : Usual words) :
    Usual (message.withValue value ++ more) := by
  rw [Message.withValue, pieces, List.map_cons, String.join_cons, String.append_assoc]
  exact usual_append words _ long usual

theorem usual_innocent (text : String) (usual : Usual text) : Innocent text := by
  have apart : ∀ start ∈ openings, start ≠ "the vali".toList ∧ start ≠ "cannot v".toList := by decide +kernel
  exact apart _ usual

/- Refusals that lie in the object or the review -/

inductive DecodeFailure.Plain : DecodeFailure → Prop where
  | empty (title : String) : Plain (.empty title)
  | invalid (report : Report) : Plain (.invalid report)

inductive Refusal.Plain : Refusal → Prop where
  | undecodable (failure : DecodeFailure) (plain : failure.Plain) : Plain (.undecodable failure)
  | noRequest : Plain (.violation .noRequest)
  | ingress : Plain (.violation (.ingress "Ingress"))
  | publicLoadBalancer (key expected : String) : Plain (.violation (.publicLoadBalancer "Service" key expected))
  | missingAnnotations (lacks : List (String × Lack)) : Plain (.violation (.missingAnnotations lacks))
  | unsupportedKind (kind : String) : Plain (.violation (.unsupportedKind kind))

theorem decode_failure_usual (failure : DecodeFailure) (plain : failure.Plain) : Usual failure.message := by
  cases plain with
  | empty title =>
    have worded : (DecodeFailure.empty title).message = "cannot decode an empty payload into " ++ title := rfl
    rw [worded]
    exact usual_append _ _ (by simp) (by decide +kernel)
  | invalid report =>
    have worded : (DecodeFailure.invalid report).message =
        "could not decode " ++ report.title ++ ": " ++ report.text := rfl
    rw [worded, String.append_assoc, String.append_assoc]
    exact usual_append _ _ (by simp) (by decide +kernel)

theorem plain_usual (refusal : Refusal) (plain : refusal.Plain) : Usual refusal.message := by
  cases plain with
  | undecodable failure plain =>
    rw [Refusal.message]
    exact decode_failure_usual failure plain
  | noRequest =>
    rw [Refusal.message, Violation.message, Message.text]
    exact usual_worded .invalidReview "" _ _ rfl (by simp) (by decide +kernel)
  | ingress => decide +kernel
  | publicLoadBalancer key expected =>
    rw [Refusal.message, Policy.public_message, String.append_assoc, String.append_assoc, String.append_assoc]
    exact usual_append _ _ (by simp) (by decide +kernel)
  | missingAnnotations lacks =>
    rw [Refusal.message, Violation.message, Message.text, String.append_assoc]
    exact usual_extended .podsMissingAnnotations "" _ _ _ rfl (by simp) (by decide +kernel)
  | unsupportedKind kind =>
    rw [Refusal.message, Violation.message, Message.text, String.append_assoc]
    exact usual_extended .unsupportedKind "" _ _ _ rfl (by simp) (by decide +kernel)

/- What a policy comes to -/

inductive Worded : Except Refusal Response → Prop where
  | response (response : Response) (innocent : Innocent response.message) : Worded (.ok response)
  | refusal (refusal : Refusal) (plain : refusal.Plain) : Worded (.error refusal)

theorem worded_bind {α : Type} (first : Told Refusal α) (next : α → Told Refusal Response)
    (fails : ∀ refusal, first.outcome = .error refusal → refusal.Plain)
    (goes : ∀ found, first.outcome = .ok found → Worded (next found).outcome) : Worded (first >>= next).outcome := by
  cases came : first.outcome with
  | ok found =>
    rw [Told.bind_found first next found came]
    exact goes found came
  | error refusal =>
    have failed : (first >>= next).outcome = .error refusal := (Told.bind_error _ _ _).mpr (.inl came)
    rw [failed]
    exact .refusal refusal (fails refusal came)

theorem decode_plain {α : Type} (shape : Shape α) (title : String) (bytes : ByteArray) (failure : DecodeFailure)
    (failed : (Codec.decodeShape shape title bytes).outcome = .error failure) : failure.Plain := by
  unfold Codec.decodeShape at failed
  split at failed
  · cases failed
    exact .empty title
  · split at failed
    · cases failed
    · rename_i report _
      cases failed
      exact .invalid report

namespace Policy

theorem object_plain (type : ResourceClass) (request : Request) (refusal : Refusal)
    (failed : (objectAs type request).outcome = .error refusal) : refusal.Plain := by
  obtain ⟨failure, lost, rfl⟩ := (Told.map_error_error _ _ _).mp failed
  exact .undecodable failure (decode_plain _ _ _ failure lost)

theorem silent_worded (response : Response) (silent : response.result = none) : Worded (.ok response) := by
  refine .response response ?_
  rw [Response.message, silent]
  decide

theorem allowed_worded : Worded (.ok (allowed denied)) := silent_worded _ rfl

theorem whitelisted_worded (nameSpace : String) : Worded (.ok (allowedWhitelisted nameSpace)) :=
  .response _ (innocent_worded .namespaceWhitelisted nameSpace _ _ rfl (by simp) (by decide +kernel))

theorem not_a_pod_worded (kind : String) : Worded (.ok (allowedSaying denied (Message.withValue .notAPod kind))) :=
  .response _ (innocent_worded .notAPod kind _ _ rfl (by simp) (by decide +kernel))

theorem ingresses_worded (ignored : Namespaces) (request : Request) :
    Worded (denyIngresses ignored request).outcome := by
  unfold denyIngresses
  dsimp only
  split
  · exact allowed_worded
  · rename_i asked
    have kind : request.kind.kind = "Ingress" := by simpa using asked
    refine worded_bind _ _ (object_plain .ingress request) fun ingress _ => ?_
    split
    · exact worded_bind _ _ nofun fun _ _ => whitelisted_worded _
    · rw [kind]
      exact .refusal _ .ingress

theorem load_balancers_worded (ignored : Namespaces) (provider : CloudProvider) (request : Request) :
    Worded (denyPublicLoadBalancers ignored (.known provider) request).outcome := by
  unfold denyPublicLoadBalancers
  dsimp only [ProviderSetting.resolve]
  split
  · exact allowed_worded
  · rename_i asked
    have kind : request.kind.kind = "Service" := by simpa using asked
    refine worded_bind _ _ (object_plain .service request) fun service _ => ?_
    split
    · exact allowed_worded
    · split
      · exact whitelisted_worded _
      · split
        · rw [kind]
          exact worded_bind _ _ nofun fun _ _ => .refusal _ (.publicLoadBalancer _ _)
        · exact allowed_worded

theorem public_services_worded (request : Request) : Worded (denyPublicServices request).outcome := by
  unfold denyPublicServices
  split
  · exact ingresses_worded [] request
  · exact load_balancers_worded [] .gcp request

theorem resource_plain (codec : Codec) (request : Request) (refusal : Refusal)
    (failed : (codec.decodeObject request).outcome = .error refusal) : refusal.Plain := by
  unfold Codec.decodeObject at failed
  split at failed
  · cases failed
    exact .unsupportedKind _
  · rcases (Told.bind_error _ _ _).mp failed with undecoded | ⟨_, _, later⟩
    · obtain ⟨failure, lost, rfl⟩ := (Told.map_error_error _ _ _).mp undecoded
      exact .undecodable failure (decode_plain _ _ _ failure lost)
    · cases later

theorem pod_annotations_worded (codec : Codec) (ignored : Namespaces) (required : Requirements)
    (usable : Usable required) (request : Request) :
    Worded (enforcePodAnnotations codec ignored required request).outcome := by
  unfold enforcePodAnnotations
  dsimp only
  split
  · exact .refusal _ (.unsupportedKind _)
  · refine worded_bind _ _ (resource_plain codec request) fun resource _ => ?_
    split
    · exact .refusal _ (.unsupportedKind _)
    · rename_i annotations _
      split
      · exact whitelisted_worded _
      · split
        · rename_i cause broken
          rw [lacks_usable annotations required usable] at broken
          cases broken
        · exact allowed_worded
        · exact worded_bind _ _ nofun fun _ _ => .refusal _ (.missingAnnotations _)

theorem autoscaler_worded (ignored : Namespaces) (request : Request) :
    Worded (addAutoscalerMark ignored request).outcome := by
  unfold addAutoscalerMark
  dsimp only
  split
  · exact not_a_pod_worded _
  · refine worded_bind _ _ (object_plain .pod request) fun pod _ => ?_
    split
    · exact whitelisted_worded _
    · split
      · exact allowed_worded
      · exact worded_bind _ _ nofun fun _ _ => silent_worded _ rfl

/-- A policy whose settings are all had: a provider that is known, a predicate for every annotation. -/
inductive Configured : Policy → Prop where
  | ingresses (ignored : Namespaces) : Configured (.ingresses ignored)
  | loadBalancers (ignored : Namespaces) (provider : CloudProvider) :
    Configured (.loadBalancers ignored (.known provider))
  | publicServices : Configured .publicServices
  | podAnnotations (ignored : Namespaces) (required : Requirements) (usable : Usable required) :
    Configured (.podAnnotations ignored required)
  | autoscaler (ignored : Namespaces) : Configured (.autoscaler ignored)

theorem configured_worded (codec : Codec) (policy : Policy) (configured : policy.Configured) (review : Option Review) :
    Worded (policy.decide codec review).outcome := by
  rw [decide, reviewed]
  cases review.bind Review.request with
  | none => exact .refusal _ .noRequest
  | some request =>
    cases configured with
    | ingresses ignored => exact ingresses_worded ignored request
    | loadBalancers ignored provider => exact load_balancers_worded ignored provider request
    | publicServices => exact public_services_worded request
    | podAnnotations ignored required usable => exact pod_annotations_worded codec ignored required usable request
    | autoscaler ignored => exact autoscaler_worded ignored request

end Policy
end Gatehouse
