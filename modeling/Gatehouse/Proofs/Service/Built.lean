import Gatehouse.Proofs.Endpoint.FailClosed
import Gatehouse.Proofs.Policy.Wording
import Gatehouse.Proofs.Service.Endpoints
import Gatehouse.Proofs.Settings.Configuration

/- The service that is made of a configuration which was accepted. It is made when the texts of the required annotations
   compile again, as texts that were given as such do: then there is one predicate for each key, in their order, and no
   endpoint is left with a policy that is not configured, so that none ever answers that it is. A pattern that was given
   in bytes may compile as bytes and not as the text that is kept of it; then no service is made. -/
namespace Gatehouse

namespace Settings

theorem requirements_usable (settings : Settings) : Policy.Usable settings.requirements := by
  rintro entry member missing
  obtain ⟨required, _, rfl⟩ := List.mem_map.mp member
  cases missing

end Settings

namespace Endpoint

/- What endpoints say of what they receive, and then what their policies say -/

theorem gather_usual (limit : Nat) (body : ByteArray) (chunks : List ByteArray) (failure : Classified)
    (refused : Body.gather limit body chunks = .error failure) : Usual failure.message := by
  induction chunks generalizing body with
  | nil => cases refused
  | cons chunk rest ih =>
    rw [Body.gather] at refused
    split at refused
    · cases refused
      exact usual_worded .bodyTooLarge _ _ _ rfl (by simp) (by decide +kernel)
    · exact ih _ refused

theorem read_usual (limit : Nat) (delivery : Delivery) (failure : Classified)
    (refused : Body.read limit delivery = .error failure) : Usual failure.message := by
  rw [Body.read] at refused
  split at refused
  · rename_i gathered
    cases refused
    exact gather_usual _ _ _ _ gathered
  · split at refused
    · cases refused
      exact usual_worded .readFailed "" _ _ rfl (by simp) (by decide +kernel)
    · split at refused
      · cases refused
        exact usual_worded .noBody "" _ _ rfl (by simp) (by decide +kernel)
      · cases refused

theorem receive_usual (endpoint : Endpoint) (delivery : Delivery) (failure : Classified)
    (refused : (endpoint.receive delivery).outcome = .error failure) : Usual failure.message := by
  rw [receive] at refused
  rcases (Told.bind_error _ _ _).mp refused with unread | ⟨body, _, later⟩
  · exact read_usual _ _ _ unread
  · rcases (Told.bind_error _ _ _).mp later with undecoded | ⟨review, _, later⟩
    · obtain ⟨cause, _, rfl⟩ := (Told.map_error_error _ _ _).mp undecoded
      exact usual_worded .decodeFailed "" _ _ rfl (by simp) (by decide +kernel)
    · split at later
      · cases later
        exact usual_worded .invalidReview "" _ _ rfl (by simp) (by decide +kernel)
      · cases later

/-- A policy that says nothing but such texts: it refuses for what lies in the object, and responds with such a text
    when it does not refuse. -/
structure Speaks (said : String → Prop) (codec : Codec) (policy : Policy) : Prop where
  usually : ∀ text, Usual text → said text
  refusal : ∀ review refusal, (policy.decide codec (some review)).outcome = .error refusal → refusal.Plain
  response : ∀ review response, (policy.decide codec (some review)).outcome = .ok response → said response.message

section

variable (said : String → Prop) (codec : Codec) (policy : Policy) (speaks : Speaks said codec policy) (limit : Nat)

include speaks

theorem judge_plain (review : Review) (refusal : Refusal)
    (refused : ((ofPolicy codec policy limit).judge review).outcome = .error refusal) : refusal.Plain := by
  rcases (Told.bind_error _ _ _).mp refused with failed | ⟨response, _, later⟩
  · exact speaks.refusal review refusal failed
  · cases later

theorem judge_said (review : Review) (verdict : Verdict)
    (judged : ((ofPolicy codec policy limit).judge review).outcome = .ok verdict) :
    ∃ response, verdict = .response response ∧ said response.message := by
  obtain ⟨response, decided, same⟩ := (Told.bind_ok _ _ _).mp judged
  cases same
  exact ⟨response, rfl, speaks.response review response decided⟩

theorem ask_said (review : Review) (request : Request) (failure : Classified)
    (refused : ((ofPolicy codec policy limit).ask review request).outcome = .error failure) :
    said failure.message := by
  cases judged : ((ofPolicy codec policy limit).judge review).outcome with
  | ok verdict => simp only [ask, judged, reduceCtorEq] at refused
  | error refusal =>
    have plain := judge_plain said codec policy speaks limit review refusal judged
    have usual := speaks.usually _ (plain_usual refusal plain)
    simp only [ask, judged] at refused
    cases plain <;> cases refused <;> exact usual

theorem decide_said (review : Review) (request : Request) (failure : Classified)
    (refused : ((ofPolicy codec policy limit).decide review request).outcome = .error failure) :
    said failure.message := by
  rcases (Told.bind_error _ _ _).mp refused with unasked | ⟨verdict, asked, later⟩
  · exact ask_said said codec policy speaks limit review request failure unasked
  · have judged := (ask_ok _ _ _ _).mp asked
    obtain ⟨response, rfl, _⟩ := judge_said said codec policy speaks limit review verdict judged
    rcases (Told.bind_error _ _ _).mp later with lost | ⟨_, _, never⟩
    · cases lost
    · cases never

theorem outgoing_said (review : Review) (request : Request) (outgoing : Review)
    (decided : ((ofPolicy codec policy limit).decide review request).outcome = .ok outgoing) :
    ∃ response, outgoing.response = some response ∧ said response.message := by
  obtain ⟨verdict, given, judged, same, rfl⟩ := (decide_ok _ _ _ _).mp decided
  obtain ⟨response, rfl, innocent⟩ := judge_said said codec policy speaks limit review verdict judged
  cases same
  exact ⟨_, rfl, innocent⟩

theorem policy_said (delivery : Delivery) : ∃ review response,
    ((ofPolicy codec policy limit).handle 0 delivery).2.2 = .review (Codec.encode .review review) ∧
      review.response = some response ∧ said response.message := by
  rw [handle_answer]
  cases received : ((ofPolicy codec policy limit).receive delivery).outcome with
  | error failure =>
    simp only [course, received, Course.close]
    exact ⟨_, _, rfl, rfl, speaks.usually _ (receive_usual _ delivery failure received)⟩
  | ok pair =>
    obtain ⟨review, request⟩ := pair
    cases decided : ((ofPolicy codec policy limit).decide review request).outcome with
    | error failure =>
      simp only [course, received, decided, Course.close]
      exact ⟨_, _, rfl, rfl, decide_said said codec policy speaks limit review request failure decided⟩
    | ok outgoing =>
      obtain ⟨response, present, saying⟩ := outgoing_said said codec policy speaks limit review request outgoing decided
      simp only [course, received, decided, Course.close]
      exact ⟨outgoing, response, rfl, present, saying⟩

end

theorem configured_speaks (codec : Codec) (policy : Policy) (configured : policy.Configured) :
    Speaks Innocent codec policy where
  usually := usual_innocent
  refusal review refusal failed := by
    have worded := Policy.configured_worded codec policy configured (some review)
    rw [failed] at worded
    cases worded with
    | refusal _ plain => exact plain
  response review response decided := by
    have worded := Policy.configured_worded codec policy configured (some review)
    rw [decided] at worded
    cases worded with
    | response _ innocent => exact innocent

end Endpoint

namespace Service

theorem assigned_configured (settings : Settings) (name : String) (policy : Policy)
    (assigned : Assigned settings name policy) : policy.Configured := by
  cases assigned with
  | ingresses => exact .ingresses _
  | publicServices => exact .publicServices
  | podAnnotations => exact .podAnnotations _ _ settings.requirements_usable
  | autoscaler => exact .autoscaler _
  | configured => exact .loadBalancers _ _
  | provider provider => exact .loadBalancers _ provider

theorem configured_never_told (settings : Settings) (path : String) (member : path ∈ (endpoints settings).map Prod.fst)
    (request : Http.Request) (post : request.method = "POST") (here : request.path = path) : ∃ review response,
      ((routes settings).handle request).2 = answerOf (.review (Codec.encode .review review)) ∧
        review.response = some response ∧ Innocent response.message := by
  obtain ⟨name, policy, rfl, assigned⟩ := path_assigned settings path member
  obtain ⟨review, response, sent, present, innocent⟩ := Endpoint.policy_said Innocent .standard policy
    (Endpoint.configured_speaks .standard policy (assigned_configured settings name policy assigned))
    settings.server.limit.bytes.toNat request.delivery
  refine ⟨review, response, ?_, present, innocent⟩
  rw [policy_answers settings name policy assigned request post here, ← sent]
  rfl

section

variable (machine : Machine) (configuration : Configuration)

/-- A service that a configuration was made into. -/
structure Made (settings : Settings) : Prop where
  taken : Configuration.ofSettings settings = configuration
  predicates : configuration.predicates machine = .ok settings.requirements
  built : build machine configuration = .ok (routes settings)
  keys : keysOf settings.requirements = keysOf configuration.required
  present : ∀ entry ∈ settings.requirements, entry.2.isSome = true
  served : ("enforce-pod-annotations", .podAnnotations settings.ignored settings.requirements) ∈ policies settings
  paths : (endpoints settings).map Prod.fst = names.map (pathStart ++ ·)
  configured : ∀ entry ∈ policies settings, ∀ review cause,
    (entry.2.decide .standard review).outcome ≠ .error (.misconfigured cause)
  answers : ∀ path ∈ (endpoints settings).map Prod.fst, ∀ request : Http.Request,
    request.method = "POST" → request.path = path → ∃ review response,
      ((routes settings).handle request).2 = answerOf (.review (Codec.encode .review review)) ∧
      review.response = some response ∧
      (∀ key, response.message ≠ (Misconfiguration.nilPredicate key).message) ∧
      ∀ provider, response.message ≠ (Misconfiguration.unsupportedProvider provider).message

/-- No service is made, for the first text that does not compile. -/
structure Unmade (cause : Halt PatternText.Invalid) : Prop where
  predicates : configuration.predicates machine = .error cause
  built : build machine configuration = .error cause
  first : ∃ before entry after, configuration.required = before ++ entry :: after ∧
    (∀ earlier ∈ before, ∃ pattern, machine.compile .use earlier.2 = .ok pattern) ∧
    machine.compile .use entry.2 = .error cause

theorem compiled_taken (settings : Settings) (compiled : configuration.compiled machine = .ok settings) :
    Configuration.ofSettings settings = configuration := by
  obtain ⟨required, made, rfl⟩ := (map_ok _ _ _).mp compiled
  obtain ⟨listed, _⟩ := (Configuration.compiled_texts_ok machine configuration.required required).mp made
  rw [Configuration.ofSettings, ← listed]

theorem requirements_keys (settings : Settings) :
    keysOf settings.requirements = keysOf (Configuration.ofSettings settings).required := by
  simp [keysOf, Settings.requirements, Configuration.ofSettings, RequiredAnnotation.written]

theorem compiled_made (settings : Settings) (compiled : configuration.compiled machine = .ok settings) :
    Made machine configuration settings where
  taken := compiled_taken machine configuration settings compiled
  predicates := by rw [Configuration.predicates, compiled]; rfl
  built := by rw [build, compiled]; rfl
  keys := by rw [requirements_keys, compiled_taken machine configuration settings compiled]
  present := fun entry member => Option.isSome_iff_ne_none.mpr (settings.requirements_usable entry member)
  served := assigned_member settings _ _ .podAnnotations
  paths := endpoints_paths settings
  configured := by
    intro entry member review cause failed
    have configured := assigned_configured settings _ _ (member_assigned settings entry member)
    have worded := Policy.configured_worded .standard entry.2 configured review
    rw [failed] at worded
    cases worded with
    | refusal _ plain => cases plain
  answers := by
    intro path member request post here
    obtain ⟨review, response, sent, present, innocent⟩ := configured_never_told settings path member request post here
    exact ⟨review, response, sent, present, innocent_apart _ innocent⟩

theorem uncompiled_unmade (cause : Halt PatternText.Invalid) (failed : configuration.compiled machine = .error cause) :
    Unmade machine configuration cause where
  predicates := by rw [Configuration.predicates, failed]; rfl
  built := by rw [build, failed]; rfl
  first := (Configuration.compiled_texts_error machine _ cause).mp ((map_failed _ _ _).mp failed)

end

/-- What becomes of a configuration that was accepted. -/
structure Served (offer : Offer) (configuration : Configuration) : Prop where
  vetted : ∀ entry ∈ configuration.required, Configuration.Vetted offer entry
  gathered : ∀ patterns, offer.patterns = some patterns →
    keysOf configuration.required = keysOf (offer.gathered patterns)
  usable : (∃ settings, configuration.compiled offer.sources.machine = .ok settings) ↔
    ∀ entry ∈ configuration.required, ∃ pattern, offer.sources.machine.compile .use entry.2 = .ok pattern
  texts : ∀ entry ∈ configuration.required, (∀ content, ¬ offer.GaveBytes entry.1 content) →
    offer.sources.machine.exhausted .use entry.2 = none →
      ∃ pattern, offer.sources.machine.compile .use entry.2 = .ok pattern
  made : ∀ settings, configuration.compiled offer.sources.machine = .ok settings →
    Made offer.sources.machine configuration settings
  unmade : ∀ cause, configuration.compiled offer.sources.machine = .error cause →
    Unmade offer.sources.machine configuration cause

theorem accepted_configuration_served (offer : Offer) (configuration : Configuration)
    (loaded : Configuration.load offer = .ok configuration) : Served offer configuration where
  vetted := Configuration.load_vetted offer configuration loaded
  gathered := by
    intro patterns given
    obtain ⟨sources, _⟩ := offer
    cases given
    have read := Configuration.patterns_read sources patterns configuration loaded
    exact GivenPattern.read_all_keys sources.machine _ _ read
  usable := by
    rw [← Configuration.compiled_texts_exist]
    constructor
    · rintro ⟨settings, compiled⟩
      obtain ⟨required, made, _⟩ := (map_ok _ _ _).mp compiled
      exact ⟨required, made⟩
    · rintro ⟨required, made⟩
      exact ⟨_, (map_ok _ _ _).mpr ⟨required, made, rfl⟩⟩
  texts := by
    intro entry member texts ample
    cases Configuration.load_vetted offer configuration loaded entry member with
    | text key text pattern checked => exact ⟨pattern, Configuration.checked_used _ text pattern checked ample⟩
    | bytes key text content pattern given => exact absurd given (texts content)
  made := compiled_made offer.sources.machine configuration
  unmade := uncompiled_unmade offer.sources.machine configuration

-- Patterns that are given one by one, with no other setting.
def offering (patterns : GivenPatterns) : Offer := ⟨⟨[], [], ⟨[], []⟩, .bare⟩, some patterns⟩

def bothOffered : Offer :=
  offering [("team", .value (.string "[a-z]+")), ("owner", .bytes (Utf8.encode "ops-[0-9]"))]

theorem both_offered_served : ∃ configuration, Configuration.load bothOffered = .ok configuration ∧
    Served bothOffered configuration ∧ configuration.required = [("team", "[a-z]+"), ("owner", "ops-[0-9]")] := by
  have loads : Settings.loadedWith (fun configuration => configuration.required ==
      [("team", "[a-z]+"), ("owner", "ops-[0-9]")]) (Configuration.load bothOffered) = true := by decide +kernel
  obtain ⟨configuration, loaded, looks⟩ := Settings.loaded_with _ _ loads
  exact ⟨configuration, loaded, accepted_configuration_served bothOffered configuration loaded, eq_of_beq looks⟩

-- A flag that patterns of bytes have and texts do not.
def localeOffered : Offer := offering [("team", .bytes (Utf8.encode "(?L)x"))]

theorem locale_pattern_unmade : ∃ configuration cause, Configuration.load localeOffered = .ok configuration ∧
    configuration.required = [("team", "(?L)x")] ∧ cause = .failed (.flawed .localeFlag (some 3)) ∧
    configuration.predicates .bare = .error cause ∧ build .bare configuration = .error cause := by
  have loads : Settings.loadedWith (fun configuration => configuration.required == [("team", "(?L)x")])
      (Configuration.load localeOffered) = true := by decide +kernel
  obtain ⟨configuration, loaded, looks⟩ := Settings.loaded_with _ _ loads
  have kept : configuration.required = [("team", "(?L)x")] := eq_of_beq looks
  have flawed : (Pattern.read "(?L)x").map (fun _ => ()) = .error (.flawed .localeFlag (some 3)) := by decide +kernel
  have failed : configuration.compiled .bare = .error (.failed (.flawed .localeFlag (some 3))) := by
    have refused : Machine.bare.compile .use "(?L)x" = .error (.failed (.flawed .localeFlag (some 3))) := by
      rw [Settings.bare_compile, (map_failed _ _ _).mp flawed]
      rfl
    rw [Configuration.compiled, map_failed, Configuration.compiled_texts_error, kept]
    exact ⟨[], _, [], rfl, nofun, refused⟩
  have unmade := uncompiled_unmade .bare configuration _ failed
  exact ⟨configuration, _, loaded, kept, rfl, unmade.predicates, unmade.built⟩

end Service
end Gatehouse
