import Gatehouse.Proofs.Journal
import Gatehouse.Proofs.Json.Members
import Gatehouse.Resource.Registry

/- Registries answer for the registrations that were made with them, and for no others. Objects are read as the class
   that the kind of their request was registered for last. A scheme of the library is such a registry. -/
namespace Gatehouse

/- Entries by key -/

theorem merged_keys {α : Type} (entries : List (String × α)) :
    keysOf (merged entries) = (keysOf entries).eraseDups := by
  induction entries using List.reverseRecOn with
  | nil => rfl
  | append_singleton entries last ih =>
    have single : [last.1].eraseDups = [last.1] := by simp [List.eraseDups_cons]
    rw [merged_append, put_keys, ih, keys_of_append, List.eraseDups_append]
    show _ = _ ++ ([last.1].removeAll (keysOf entries)).eraseDups
    by_cases known : last.1 ∈ keysOf entries
    · simp [known, List.removeAll]
    · simp [known, List.removeAll, single]

namespace Registry

variable {τ : Type}

-- A registration with the kind that it is made under.
def entryOf (kind : Option String) (type : ObjectClass τ) : String × ObjectClass τ :=
  if kind = none ∨ kind = some "" then (type.name, type) else (kind.getD "", type)

theorem entry_of_key (kind : Option String) (type : ObjectClass τ) : entryOf kind type = (keyOf kind type, type) := by
  cases kind with
  | none => rfl
  | some kind =>
    by_cases empty : kind = ""
    · subst empty
      rfl
    · rw [entryOf, if_neg (by simp [empty])]
      simp [keyOf]

/-- A registry answers for these registrations, the first one first. -/
structure Answers (registry : Registry τ) (registrations : List (String × ObjectClass τ)) : Prop where
  looked : ∀ kind, registry.lookup kind =
    ((registrations.filter fun entry => entry.1 == kind).getLast?).map Prod.snd
  contained : ∀ kind, registry.contains kind = true ↔ registry.lookup kind ≠ none
  listed : registry.kinds = (registrations.map Prod.fst).eraseDups
  once : registry.kinds.Nodup

-- Requests are read over a registry by the kinds of these registrations.
structure Reads (registry : Registry τ) (registrations : List (String × ObjectClass τ)) : Prop where
  unsupported : ∀ request : Request, (registry.decodeObject request none).outcome =
    .error (.violation (.unsupportedKind request.kind.kind)) ↔ request.kind.kind ∉ registrations.map Prod.fst
  -- The object does not matter where the kind is unknown.
  unread : ∀ (request : Request) (object : Option Members), request.kind.kind ∉ registrations.map Prod.fst →
    registry.decodeObject { request with object := object } none =
      Told.fail (.violation (.unsupportedKind request.kind.kind))
  dispatched : ∀ (request : Request) (type : ObjectClass τ),
    ((registrations.filter fun entry => entry.1 == request.kind.kind).getLast?).map Prod.snd = some type →
      registry.decodeObject request none = registry.decodeObject request (some type)
  targeted : ∀ (request : Request) (type : ObjectClass τ) (other : Registry τ),
    registry.decodeObject request (some type) = other.decodeObject request (some type)

theorem answers_merged (registrations : List (String × ObjectClass τ)) :
    Answers ⟨merged registrations⟩ registrations where
  looked kind := by rw [lookup, last_of_merged, last_of_filtered]
  contained kind := Option.isSome_iff_ne_none
  listed := merged_keys registrations
  once := merged_distinct registrations

theorem read_supported (type : ObjectClass τ) (request : Request) (kind : String) :
    (type.read request).outcome ≠ .error (.violation (.unsupportedKind kind)) := by
  intro refused
  obtain ⟨cause, _, same⟩ := (Told.map_error_error _ _ _).mp refused
  cases same

theorem answers_unknown (registry : Registry τ) (registrations : List (String × ObjectClass τ))
    (answers : Answers registry registrations) (kind : String) :
    registry.lookup kind = none ↔ kind ∉ registrations.map Prod.fst := by
  rw [answers.looked, ← last_of_filtered]
  exact last_of_none registrations kind

theorem answers_read (registry : Registry τ) (registrations : List (String × ObjectClass τ))
    (answers : Answers registry registrations) : Reads registry registrations where
  unsupported request := by
    rw [← answers_unknown registry registrations answers]
    cases found : registry.lookup request.kind.kind with
    | none => simp only [decodeObject, found, Told.fail_outcome]
    | some type =>
      simp only [decodeObject, found, reduceCtorEq, iff_false]
      exact read_supported type request request.kind.kind
  unread request object unknown := by
    simp only [decodeObject, (answers_unknown registry registrations answers _).mpr unknown]
  dispatched request type last := by
    rw [← answers.looked] at last
    simp only [decodeObject, last]
  targeted request type other := rfl

def enter (registry : Registry τ) (entries : List (String × ObjectClass τ)) : Registry τ :=
  ⟨entries.foldl (fun classes entry => put classes entry.1 entry.2) registry.classes⟩

end Registry

/- Registries side by side -/

namespace Registries

variable {τ : Type}

-- The registration of a step, if it is one with the registry at this place.
def entryAt? (place : Nat) : Registering τ → Option (String × ObjectClass τ)
  | .create => none
  | .register here kind type => if here = place then some (Registry.entryOf kind type) else none

def madeAt (place : Nat) (steps : List (Registering τ)) : List (String × ObjectClass τ) :=
  steps.filterMap (entryAt? place)

theorem step_at (registries : Registries τ) (step : Registering τ) (place : Nat) (registry : Registry τ)
    (present : registries[place]? = some registry) :
    (registries.step step)[place]? = some (registry.enter (entryAt? place step).toList) := by
  cases step with
  | create =>
    have inside := (List.getElem?_eq_some_iff.mp present).1
    rw [Registries.step, List.getElem?_append_left inside, present]
    rfl
  | register here kind type =>
    rw [Registries.step, List.getElem?_modify, present]
    by_cases same : here = place
    · simp [entryAt?, same, Registry.entry_of_key, Registry.enter, Registry.register]
    · simp [entryAt?, same, Registry.enter]

-- Every registry comes to what the registrations made with it make of it.
theorem run_at (registries : Registries τ) (steps : List (Registering τ)) (place : Nat) (registry : Registry τ)
    (present : registries[place]? = some registry) :
    (registries.run steps)[place]? = some (registry.enter (madeAt place steps)) := by
  induction steps generalizing registries registry with
  | nil => exact present
  | cons first rest ih =>
    have later := ih (registries.step first) _ (step_at registries first place registry present)
    rw [run, List.foldl_cons, ← run, later]
    cases entered : entryAt? place first <;> simp [madeAt, entered, Registry.enter]

theorem run_fresh (registries : Registries τ) (steps : List (Registering τ)) :
    ((registries.step .create).run steps)[registries.length]? =
      some ⟨merged (madeAt registries.length steps)⟩ := by
  have fresh : (registries.step .create)[registries.length]? = some .empty := by simp [Registries.step]
  rw [run_at _ steps _ _ fresh]
  rfl

-- Registries that differ at one place at most.
structure AlikeBut (place : Nat) (left right : Registries τ) : Prop where
  count : left.length = right.length
  elsewhere : ∀ other, other ≠ place → left[other]? = right[other]?

theorem alike_step (place : Nat) (left right : Registries τ) (step : Registering τ)
    (alike : AlikeBut place left right) : AlikeBut place (left.step step) (right.step step) := by
  cases step with
  | create =>
    refine ⟨by simp [Registries.step, alike.count], fun other apart => ?_⟩
    rw [Registries.step, Registries.step, List.getElem?_append, List.getElem?_append, alike.count,
      alike.elsewhere other apart]
  | register here kind type =>
    refine ⟨by simp [Registries.step, alike.count], fun other apart => ?_⟩
    rw [Registries.step, Registries.step, List.getElem?_modify, List.getElem?_modify, alike.elsewhere other apart]

theorem entry_here (place : Nat) (left right : Registries τ) (step : Registering τ)
    (entered : (entryAt? place step).isSome) (alike : AlikeBut place left right) :
    AlikeBut place (left.step step) right := by
  cases step with
  | create => cases entered
  | register here kind type =>
    have same : here = place := by
      by_contra apart
      simp [entryAt?, apart] at entered
    refine ⟨by simp [Registries.step, alike.count], fun other apart => ?_⟩
    rw [Registries.step, List.getElem?_modify, alike.elsewhere other apart, same]
    simp [Ne.symm apart]

-- The registrations with one registry change no other, be it there before or created on the way.
theorem run_elsewhere (place : Nat) (left right : Registries τ) (steps : List (Registering τ))
    (alike : AlikeBut place left right) :
    AlikeBut place (left.run steps) (right.run (steps.filter fun step => (entryAt? place step).isNone)) := by
  induction steps generalizing left right with
  | nil => exact alike
  | cons first rest ih =>
    cases entered : entryAt? place first with
    | some entry =>
      rw [List.filter_cons_of_neg (by simp [entered])]
      exact ih _ _ (entry_here place left right first (by simp [entered]) alike)
    | none =>
      rw [List.filter_cons_of_pos (by simp [entered])]
      exact ih _ _ (alike_step place left right first alike)

end Registries

/- The schemes of the library -/

-- A scheme does with the classes of the library what a registry does with any.
structure Scheme.Opens (scheme : Scheme) : Prop where
  registered : ∀ kind type, (scheme.register kind type).opened = scheme.opened.register kind type.opened
  looked : ∀ kind, scheme.opened.lookup kind = (scheme.lookup kind).map ResourceClass.opened
  contained : ∀ kind, scheme.opened.contains kind = scheme.contains kind
  listed : scheme.opened.kinds = scheme.kinds
  decoded : ∀ request, scheme.opened.decodeObject request none = Codec.decodeObject ⟨scheme⟩ request
  targeted : ∀ request type, scheme.opened.decodeObject request (some type.opened) =
    ((Codec.decodeObjectAs type request).mapError .undecodable).andThen fun object => pure ⟨type, object⟩

theorem opened_read (type : ResourceClass) (request : Request) : type.opened.read request =
    ((Codec.decodeObjectAs type request).mapError .undecodable).andThen fun object => pure ⟨type, object⟩ := by
  simp only [ObjectClass.read, ObjectClass.decode, Codec.decodeObjectAs, Codec.decode, Codec.decodeShape,
    ResourceClass.opened, Target.shape, Target.title]
  cases (Utf8.encode request.rawObject).isEmpty with
  | true => rfl
  | false => cases type.shape.decode type.name (Utf8.encode request.rawObject) <;> rfl

theorem opened_looked (scheme : Scheme) (kind : String) :
    scheme.opened.lookup kind = (scheme.lookup kind).map ResourceClass.opened :=
  last_of_mapped ResourceClass.opened scheme.classes kind

theorem scheme_opens (scheme : Scheme) : scheme.Opens where
  registered kind type := congrArg Registry.mk (put_mapped ResourceClass.opened scheme.classes _ type)
  looked kind := opened_looked scheme kind
  contained kind := by rw [Registry.contains, opened_looked, Option.isSome_map, Scheme.contains]
  listed := List.map_map
  decoded request := by
    rw [Registry.decodeObject, opened_looked, Codec.decodeObject]
    cases scheme.lookup request.kind.kind with
    | none => rfl
    | some type => exact opened_read type request
  targeted request type := opened_read type request

-- What these steps make of registries with a new one after them.
def Registries.grown {τ : Type} (before : Registries τ) (steps : List (Registering τ)) : Registries τ :=
  (before.step .create).run steps

theorem grown_fresh {τ : Type} (before : Registries τ) (steps : List (Registering τ)) :
    (before.grown steps).consulted (some before.length) = ⟨merged (Registries.madeAt before.length steps)⟩ := by
  rw [Registries.consulted, List.getD_eq_getElem?_getD, Option.getD_some, Registries.grown, Registries.run_fresh,
    Option.getD_some]

theorem grown_untouched {τ : Type} (before : Registries τ) (steps : List (Registering τ)) (other : Nat)
    (there : other < before.length) (untouched : Registries.madeAt other steps = []) :
    (before.grown steps)[other]? = before[other]? := by
  have present : (before.step .create)[other]? = some before[other] := by
    rw [Registries.step, List.getElem?_append_left there, List.getElem?_eq_getElem there]
  rw [Registries.grown, Registries.run_at _ steps other _ present, untouched, List.getElem?_eq_getElem there]
  rfl

theorem registries_answer_alone {τ : Type} (before : Registries τ) (steps : List (Registering τ)) :
    ((before.grown steps).consulted (some before.length)).Answers (Registries.madeAt before.length steps) ∧
    ((before.grown steps).consulted (some before.length)).Reads (Registries.madeAt before.length steps) ∧
    (∀ other, other ≠ before.length → (before.grown steps)[other]? =
      (before.grown (steps.filter fun step => (Registries.entryAt? before.length step).isNone))[other]?) ∧
    (∀ other < before.length, Registries.madeAt other steps = [] →
      (before.grown steps)[other]? = before[other]?) ∧
    ∀ scheme : Scheme, scheme.Opens := by
  have answers := Registry.answers_merged (Registries.madeAt before.length steps)
  rw [grown_fresh]
  refine ⟨answers, Registry.answers_read _ _ answers, ?_, grown_untouched before steps, scheme_opens⟩
  exact (Registries.run_elsewhere before.length _ _ steps ⟨rfl, fun _ _ => rfl⟩).elsewhere

end Gatehouse
