import Gatehouse.Proofs.Endpoint.FailClosed
import Mathlib.Logic.Function.Basic
import Mathlib.Logic.Relation

/- Requests that are served at the same time. Each is a task that goes on only while every other task waits, and that
   waits for the pieces of its body and for the decision on its review. A decision function may give several requests
   the same response, which is shared with whoever holds it: the mark of a request is written into it, and it is
   encoded as it is by then. However the tasks are interleaved, each comes to an answer that its request would be given
   on its own. -/
namespace Gatehouse.Endpoint

-- What a decision function gives: a response that it keeps in some place, or an outcome of its own.
inductive Given where
  | shared (place : Nat)
  | own (outcome : Except Refusal Verdict)

inductive Task where
  | reading (body : ByteArray) (left : Delivery)
  | asking (review : Review) (request : Request)
  | given (review : Review) (request : Request) (given : Given)
  | marked (review : Review) (request : Request) (place : Nat)
  | done (answer : Answer)

-- What all tasks can reach: the responses that are shared, and the encodings that are still going to fail.
structure Shared where
  responses : Nat → Response
  failures : Nat

structure System where
  shared : Shared
  tasks : List Task

def Shared.close (shared : Shared) (course : Course) : Shared × Task :=
  ({ shared with failures := (course.close shared.failures).1 }, .done (course.close shared.failures).2)

def Shared.mark (shared : Shared) (place : Nat) (uid : String) : Shared :=
  { shared with responses := Function.update shared.responses place { shared.responses place with uid := uid } }

-- The endpoint whose decision function comes to one outcome.
def giving (endpoint : Endpoint) (outcome : Except Refusal Verdict) : Endpoint :=
  { endpoint with judge := fun _ => ⟨[], outcome⟩ }

-- The course of a request from its decision on.
def settle (endpoint : Endpoint) (review : Review) (request : Request) : Course :=
  match (endpoint.decide review request).outcome with
  | .error failure => .refused (originOf review request) failure
  | .ok outgoing => .answered (originOf review request) outgoing

namespace Task

def start (delivery : Delivery) : Task := .reading ByteArray.empty delivery

-- Between the writing of the mark and the encoding nothing is waited for.
def waits : Task → Bool
  | .marked _ _ _ => false
  | _ => true

/-- One stretch of a task. It needs nothing from outside but while a decision is asked for, or when it is done. -/
def proceed (endpoint : Endpoint) (shared : Shared) : Task → Option (Shared × Task)
  | .reading body ⟨chunk :: rest, disconnected⟩ =>
    match Body.gather endpoint.limit body [chunk] with
    | .error failure => some (shared.close (.refused Origin.unknown failure))
    | .ok grown => some (shared, .reading grown ⟨rest, disconnected⟩)
  | .reading body ⟨[], disconnected⟩ =>
    match (endpoint.receive ⟨[body], disconnected⟩).outcome with
    | .error failure => some (shared.close (.refused Origin.unknown failure))
    | .ok (review, request) => some (shared, .asking review request)
  | .asking _ _ => none
  | .given review request (.own outcome) => some (shared.close ((endpoint.giving outcome).settle review request))
  | .given review request (.shared place) => some (shared.mark place request.uid, .marked review request place)
  | .marked review request place =>
    some (shared.close (.answered (originOf review request) (answerWith review.apiVersion (shared.responses place))))
  | .done _ => none

end Task

-- Every task but one waits.
def Waiting (tasks : List Task) (index : Nat) : Prop :=
  ∀ (other : Nat) task, other ≠ index → tasks[other]? = some task → task.waits = true

-- No mark that was written and is yet to be encoded is written over.
def KeepsMarks (tasks : List Task) (before after : Shared) : Prop :=
  ∀ review request place, .marked review request place ∈ tasks →
    (after.responses place).uid = (before.responses place).uid

/-- What may happen next: a task goes on, a decision is given, or decision functions that run on their own change what
    is shared. -/
inductive Step (endpoint : Endpoint) : System → System → Prop where
  | proceed (shared after : Shared) (tasks : List Task) (index : Nat) (task next : Task)
    (present : tasks[index]? = some task) (waiting : Waiting tasks index)
    (moved : task.proceed endpoint shared = some (after, next)) :
    Step endpoint ⟨shared, tasks⟩ ⟨after, tasks.set index next⟩
  | give (shared : Shared) (tasks : List Task) (index : Nat) (review : Review) (request : Request) (given : Given)
    (present : tasks[index]? = some (.asking review request)) :
    Step endpoint ⟨shared, tasks⟩ ⟨shared, tasks.set index (.given review request given)⟩
  | change (before after : Shared) (tasks : List Task) (keeps : KeepsMarks tasks before after) :
    Step endpoint ⟨before, tasks⟩ ⟨after, tasks⟩

abbrev Run (endpoint : Endpoint) : System → System → Prop := Relation.ReflTransGen (Step endpoint)

/- Bodies piece by piece -/

theorem gather_append (limit : Nat) (body : ByteArray) (taken chunks : List ByteArray) :
    Body.gather limit body (taken ++ chunks) =
      (Body.gather limit body taken).bind fun grown => Body.gather limit grown chunks := by
  induction taken generalizing body with
  | nil => rfl
  | cons chunk rest ih =>
    rw [List.cons_append, Body.gather, Body.gather]
    split
    · rfl
    · exact ih (body ++ chunk)

theorem gather_cons (limit : Nat) (body chunk : ByteArray) (rest : List ByteArray) :
    Body.gather limit body (chunk :: rest) =
      (Body.gather limit body [chunk]).bind fun grown => Body.gather limit grown rest :=
  gather_append limit body [chunk] rest

theorem gather_whole (limit : Nat) (taken : List ByteArray) (body : ByteArray)
    (gathered : Body.gather limit ByteArray.empty taken = .ok body) :
    Body.gather limit ByteArray.empty [body] = .ok body := by
  obtain ⟨_, small⟩ := (Body.gather_ok limit _ taken body (Nat.zero_le _)).mp gathered
  exact (Body.gather_ok limit _ [body] body (Nat.zero_le _)).mpr ⟨ByteArray.empty_append, small⟩

-- Reading comes to the same when the pieces have been put together.
theorem receive_gathered (endpoint : Endpoint) (taken : List ByteArray) (body : ByteArray) (disconnected : Bool)
    (gathered : Body.gather endpoint.limit ByteArray.empty taken = .ok body) :
    endpoint.receive ⟨taken, disconnected⟩ = endpoint.receive ⟨[body], disconnected⟩ := by
  have read : Body.read endpoint.limit ⟨taken, disconnected⟩ = Body.read endpoint.limit ⟨[body], disconnected⟩ := by
    simp only [Body.read, gathered, gather_whole _ _ _ gathered]
  rw [receive, receive, read]

theorem receive_overgrown (endpoint : Endpoint) (delivery : Delivery) (failure : Classified)
    (refused : Body.gather endpoint.limit ByteArray.empty delivery.chunks = .error failure) :
    (endpoint.receive delivery).outcome = .error failure := by
  refine (Told.bind_error _ _ _).mpr (.inl ?_)
  show Body.read endpoint.limit delivery = .error failure
  simp only [Body.read, refused]

/- The stretches of reading -/

section

variable (endpoint : Endpoint) (shared : Shared) (body : ByteArray) (disconnected : Bool)

theorem proceed_piece (chunk grown : ByteArray) (rest : List ByteArray)
    (taken : Body.gather endpoint.limit body [chunk] = .ok grown) :
    (Task.reading body ⟨chunk :: rest, disconnected⟩).proceed endpoint shared =
      some (shared, .reading grown ⟨rest, disconnected⟩) := by
  simp only [Task.proceed, taken]

theorem proceed_overgrown (chunk : ByteArray) (rest : List ByteArray) (failure : Classified)
    (refused : Body.gather endpoint.limit body [chunk] = .error failure) :
    (Task.reading body ⟨chunk :: rest, disconnected⟩).proceed endpoint shared =
      some (shared.close (.refused Origin.unknown failure)) := by
  simp only [Task.proceed, refused]

theorem proceed_received (review : Review) (request : Request)
    (received : (endpoint.receive ⟨[body], disconnected⟩).outcome = .ok (review, request)) :
    (Task.reading body ⟨[], disconnected⟩).proceed endpoint shared = some (shared, .asking review request) := by
  simp only [Task.proceed, received]

theorem proceed_refused (failure : Classified)
    (refused : (endpoint.receive ⟨[body], disconnected⟩).outcome = .error failure) :
    (Task.reading body ⟨[], disconnected⟩).proceed endpoint shared =
      some (shared.close (.refused Origin.unknown failure)) := by
  simp only [Task.proceed, refused]

end

/- What holds of a task -/

/-- How far a request has come: what was read of it is what it came with, and what is to be encoded for it, or was,
    bears its mark. -/
inductive Sound (endpoint : Endpoint) (shared : Shared) (delivery : Delivery) : Task → Prop where
  | reading (body : ByteArray) (left : Delivery) (taken : List ByteArray)
    (split : delivery = ⟨taken ++ left.chunks, left.disconnected⟩)
    (gathered : Body.gather endpoint.limit ByteArray.empty taken = .ok body) :
    Sound endpoint shared delivery (.reading body left)
  | asking (review : Review) (request : Request)
    (received : (endpoint.receive delivery).outcome = .ok (review, request)) :
    Sound endpoint shared delivery (.asking review request)
  | given (review : Review) (request : Request) (given : Given)
    (received : (endpoint.receive delivery).outcome = .ok (review, request)) :
    Sound endpoint shared delivery (.given review request given)
  | marked (review : Review) (request : Request) (place : Nat)
    (received : (endpoint.receive delivery).outcome = .ok (review, request))
    (bears : (shared.responses place).uid = request.uid) : Sound endpoint shared delivery (.marked review request place)
  | done (outcome : Except Refusal Verdict) (failures : Nat) :
    Sound endpoint shared delivery (.done ((endpoint.giving outcome).handle failures delivery).2.2)

section

variable (endpoint : Endpoint) (shared : Shared) (delivery : Delivery)

theorem start_sound : Sound endpoint shared delivery (Task.start delivery) :=
  .reading _ _ [] rfl rfl

-- A task that waits does not depend on what is shared.
theorem waiting_sound (after : Shared) (task : Task) (sound : Sound endpoint shared delivery task)
    (waits : task.waits = true) : Sound endpoint after delivery task := by
  cases sound with
  | reading body left taken split gathered => exact .reading body left taken split gathered
  | asking review request received => exact .asking review request received
  | given review request given received => exact .given review request given received
  | marked review request place received bears => cases waits
  | done outcome failures => exact .done outcome failures

theorem closed_sound (outcome : Except Refusal Verdict) (course : Course)
    (comes : (endpoint.giving outcome).course delivery = course) :
    Sound endpoint (shared.close course).1 delivery (shared.close course).2 := by
  have answer := handle_answer (endpoint.giving outcome) shared.failures delivery
  rw [comes] at answer
  rw [Shared.close, ← answer]
  exact .done outcome shared.failures

theorem refused_sound (failure : Classified) (refused : (endpoint.receive delivery).outcome = .error failure) :
    Sound endpoint (shared.close (.refused Origin.unknown failure)).1 delivery
      (shared.close (.refused Origin.unknown failure)).2 := by
  apply closed_sound endpoint shared delivery (.ok .nothing)
  have same : ((endpoint.giving (.ok .nothing)).receive delivery).outcome = .error failure := refused
  simp only [course, same]

theorem course_settles (review : Review) (request : Request)
    (received : (endpoint.receive delivery).outcome = .ok (review, request)) :
    endpoint.course delivery = endpoint.settle review request := by
  simp only [course, received]
  rfl

theorem piece_sound (body chunk : ByteArray) (rest : List ByteArray) (disconnected : Bool) (after : Shared)
    (next : Task) (sound : Sound endpoint shared delivery (.reading body ⟨chunk :: rest, disconnected⟩))
    (moved : (Task.reading body ⟨chunk :: rest, disconnected⟩).proceed endpoint shared = some (after, next)) :
    Sound endpoint after delivery next := by
  cases sound with
  | reading _ _ taken split gathered =>
    subst split
    cases grown : Body.gather endpoint.limit body [chunk] with
    | error failure =>
      rw [proceed_overgrown endpoint shared body disconnected chunk rest failure grown] at moved
      cases moved
      refine refused_sound endpoint shared _ failure (receive_overgrown endpoint _ failure ?_)
      rw [gather_append, gathered]
      show Body.gather endpoint.limit body (chunk :: rest) = _
      rw [gather_cons, grown]
      rfl
    | ok whole =>
      rw [proceed_piece endpoint shared body disconnected chunk whole rest grown] at moved
      cases moved
      refine .reading whole _ (taken ++ [chunk]) ?_ ?_
      · simp
      · rw [gather_append, gathered]
        exact grown

theorem whole_sound (body : ByteArray) (disconnected : Bool) (after : Shared) (next : Task)
    (sound : Sound endpoint shared delivery (.reading body ⟨[], disconnected⟩))
    (moved : (Task.reading body ⟨[], disconnected⟩).proceed endpoint shared = some (after, next)) :
    Sound endpoint after delivery next := by
  cases sound with
  | reading _ _ taken split gathered =>
    have same := receive_gathered endpoint taken body disconnected gathered
    rw [List.append_nil] at split
    subst split
    cases received : (endpoint.receive ⟨[body], disconnected⟩).outcome with
    | error failure =>
      rw [proceed_refused endpoint shared body disconnected failure received] at moved
      cases moved
      exact refused_sound endpoint shared _ failure (by rw [same, received])
    | ok pair =>
      rw [proceed_received endpoint shared body disconnected pair.1 pair.2 received] at moved
      cases moved
      exact .asking pair.1 pair.2 (by rw [same, received])

-- The response with its mark is what the decision would have been made into.
theorem marked_settles (review : Review) (request : Request) (response : Response)
    (bears : response.uid = request.uid) : (endpoint.giving (.ok (.response response))).settle review request =
      .answered (originOf review request) (answerWith review.apiVersion response) := by
  have decided : ((endpoint.giving (.ok (.response response))).decide review request).outcome =
      .ok (answerWith review.apiVersion response) := by
    refine (decide_ok _ _ _ _).mpr ⟨.response response, response, rfl, rfl, ?_⟩
    rw [← bears]
  rw [settle, decided]

theorem proceed_sound (task next : Task) (after : Shared) (sound : Sound endpoint shared delivery task)
    (moved : task.proceed endpoint shared = some (after, next)) : Sound endpoint after delivery next := by
  match task with
  | .reading body ⟨chunk :: rest, disconnected⟩ =>
    exact piece_sound endpoint shared delivery body chunk rest disconnected after next sound moved
  | .reading body ⟨[], disconnected⟩ =>
    exact whole_sound endpoint shared delivery body disconnected after next sound moved
  | .asking review request => cases moved
  | .given review request (.own outcome) =>
    cases sound with
    | given _ _ _ received =>
      cases moved
      exact closed_sound endpoint shared delivery outcome _
        (course_settles (endpoint.giving outcome) delivery review request received)
  | .given review request (.shared place) =>
    cases sound with
    | given _ _ _ received =>
      cases moved
      refine .marked review request place received ?_
      simp [Shared.mark]
  | .marked review request place =>
    cases sound with
    | marked _ _ _ received bears =>
      cases moved
      apply closed_sound endpoint shared delivery (.ok (.response (shared.responses place)))
      rw [course_settles (endpoint.giving _) delivery review request received]
      exact marked_settles endpoint review request _ bears
  | .done answer => cases moved

end

/- What holds of all of them -/

def AllSound (endpoint : Endpoint) (deliveries : List Delivery) (system : System) : Prop :=
  ∀ (index : Nat) delivery task, deliveries[index]? = some delivery → system.tasks[index]? = some task →
    Sound endpoint system.shared delivery task

theorem started_sound (endpoint : Endpoint) (deliveries : List Delivery) (shared : Shared) :
    AllSound endpoint deliveries ⟨shared, deliveries.map Task.start⟩ := by
  intro index delivery task came present
  rw [List.getElem?_map, came] at present
  cases present
  exact start_sound endpoint shared delivery

theorem set_sound (endpoint : Endpoint) (deliveries : List Delivery) (after : Shared) (tasks : List Task)
    (index : Nat) (next : Task)
    (others : ∀ (other : Nat) delivery task, other ≠ index → deliveries[other]? = some delivery →
      tasks[other]? = some task → Sound endpoint after delivery task)
    (own : ∀ delivery, deliveries[index]? = some delivery → Sound endpoint after delivery next) :
    AllSound endpoint deliveries ⟨after, tasks.set index next⟩ := by
  intro other delivery task came present
  by_cases same : other = index
  · subst same
    have inside : other < tasks.length := by
      have bound := (List.getElem?_eq_some_iff.mp present).1
      rwa [List.length_set] at bound
    rw [List.getElem?_set_self inside] at present
    cases present
    exact own delivery came
  · rw [List.getElem?_set_ne (Ne.symm same)] at present
    exact others other delivery task same came present

theorem step_sound (endpoint : Endpoint) (deliveries : List Delivery) (before after : System)
    (all : AllSound endpoint deliveries before) (step : Step endpoint before after) :
    AllSound endpoint deliveries after := by
  cases step with
  | proceed shared changed tasks index task next present waiting moved =>
    apply set_sound endpoint deliveries changed tasks index next
    · intro other delivery task different came there
      exact waiting_sound endpoint shared delivery changed task (all other delivery task came there)
        (waiting other task different there)
    · intro delivery came
      exact proceed_sound endpoint shared delivery task next changed (all index delivery task came present) moved
  | give shared tasks index review request given present =>
    apply set_sound endpoint deliveries shared tasks index _
    · intro other delivery task _ came there
      exact all other delivery task came there
    · intro delivery came
      cases all index delivery _ came present with
      | asking _ _ received => exact .given review request given received
  | change shared changed tasks keeps =>
    intro index delivery task came present
    have sound := all index delivery task came present
    cases waits : task.waits with
    | true => exact waiting_sound endpoint shared delivery changed task sound waits
    | false =>
      cases sound with
      | marked review request place received bears =>
        have kept := keeps review request place (List.mem_of_getElem? present)
        exact .marked review request place received (kept.trans bears)
      | _ => cases waits

theorem run_sound (endpoint : Endpoint) (deliveries : List Delivery) (before after : System)
    (all : AllSound endpoint deliveries before) (run : Run endpoint before after) :
    AllSound endpoint deliveries after := by
  induction run with
  | refl => exact all
  | tail _ step ih => exact step_sound endpoint deliveries _ _ ih step

/-- However they are interleaved, requests are given answers that they could be given one by one. -/
theorem answered_alone (endpoint : Endpoint) (deliveries : List Delivery) (shared : Shared) (system : System)
    (run : Run endpoint ⟨shared, deliveries.map Task.start⟩ system) (index : Nat) (delivery : Delivery)
    (answer : Answer) (came : deliveries[index]? = some delivery) (answered : system.tasks[index]? = some (.done answer)) :
    ∃ outcome failures, answer = ((endpoint.giving outcome).handle failures delivery).2.2 := by
  have all := run_sound endpoint deliveries _ _ (started_sound endpoint deliveries shared) run
  cases all index delivery _ came answered with
  | done outcome failures => exact ⟨outcome, failures, rfl⟩

/- A task that nothing comes between is served like a request on its own. -/

theorem ask_giving (endpoint : Endpoint) (review : Review) (request : Request) :
    ((endpoint.giving (endpoint.judge review).outcome).ask review request).outcome =
      (endpoint.ask review request).outcome := by
  cases judged : (endpoint.judge review).outcome with
  | error refusal => simp only [ask, giving, judged]
  | ok verdict => simp only [ask, giving, judged]

theorem settle_giving (endpoint : Endpoint) (review : Review) (request : Request) :
    (endpoint.giving (endpoint.judge review).outcome).settle review request = endpoint.settle review request := by
  have same : ((endpoint.giving (endpoint.judge review).outcome).decide review request).outcome =
      (endpoint.decide review request).outcome := Told.bind_untold _ _ _ (ask_giving endpoint review request)
  rw [settle, settle, same]

section

variable (endpoint : Endpoint) (shared : Shared) (tasks : List Task) (index : Nat) (first : Task)
  (present : tasks[index]? = some first) (waiting : Waiting tasks index)

include present

theorem run_begun : Run endpoint ⟨shared, tasks⟩ ⟨shared, tasks.set index first⟩ := by
  obtain ⟨inside, rfl⟩ := List.getElem?_eq_some_iff.mp present
  rw [List.set_getElem_self inside]

theorem set_found (next : Task) : (tasks.set index next)[index]? = some next :=
  List.getElem?_set_self (List.getElem?_eq_some_iff.mp present).1

theorem run_gives (middle : Shared) (review : Review) (request : Request) (given : Given)
    (run : Run endpoint ⟨shared, tasks⟩ ⟨middle, tasks.set index (.asking review request)⟩) :
    Run endpoint ⟨shared, tasks⟩ ⟨middle, tasks.set index (.given review request given)⟩ := by
  have step : Step endpoint _ _ := .give middle (tasks.set index (.asking review request)) index review request given
    (set_found tasks index first present _)
  rw [List.set_set] at step
  exact run.tail step

include waiting

theorem run_proceeds (middle after : Shared) (task next : Task)
    (run : Run endpoint ⟨shared, tasks⟩ ⟨middle, tasks.set index task⟩)
    (moved : task.proceed endpoint middle = some (after, next)) :
    Run endpoint ⟨shared, tasks⟩ ⟨after, tasks.set index next⟩ := by
  have others : Waiting (tasks.set index task) index := by
    intro other there different found
    rw [List.getElem?_set_ne (Ne.symm different)] at found
    exact waiting other there different found
  have step : Step endpoint _ _ := .proceed middle after (tasks.set index task) index task next
    (set_found tasks index first present task) others moved
  rw [List.set_set] at step
  exact run.tail step

theorem pieces_run (chunks : List ByteArray) (body whole : ByteArray) (disconnected : Bool)
    (run : Run endpoint ⟨shared, tasks⟩ ⟨shared, tasks.set index (.reading body ⟨chunks, disconnected⟩)⟩)
    (gathered : Body.gather endpoint.limit body chunks = .ok whole) :
    Run endpoint ⟨shared, tasks⟩ ⟨shared, tasks.set index (.reading whole ⟨[], disconnected⟩)⟩ := by
  induction chunks generalizing body with
  | nil =>
    cases gathered
    exact run
  | cons chunk rest ih =>
    rw [gather_cons] at gathered
    cases taken : Body.gather endpoint.limit body [chunk] with
    | error failure =>
      rw [taken] at gathered
      cases gathered
    | ok grown =>
      rw [taken] at gathered
      have moved := proceed_piece endpoint shared body disconnected chunk grown rest taken
      have further := run_proceeds endpoint shared tasks index first present waiting shared shared _ _ run moved
      exact ih grown further gathered

theorem overgrown_run (chunks : List ByteArray) (body : ByteArray) (disconnected : Bool) (failure : Classified)
    (run : Run endpoint ⟨shared, tasks⟩ ⟨shared, tasks.set index (.reading body ⟨chunks, disconnected⟩)⟩)
    (refused : Body.gather endpoint.limit body chunks = .error failure) :
    Run endpoint ⟨shared, tasks⟩ ⟨(shared.close (.refused Origin.unknown failure)).1,
      tasks.set index (shared.close (.refused Origin.unknown failure)).2⟩ := by
  induction chunks generalizing body with
  | nil => cases refused
  | cons chunk rest ih =>
    rw [gather_cons] at refused
    cases taken : Body.gather endpoint.limit body [chunk] with
    | error early =>
      rw [taken] at refused
      cases refused
      have moved := proceed_overgrown endpoint shared body disconnected chunk rest failure taken
      exact run_proceeds endpoint shared tasks index first present waiting shared _ _ _ run moved
    | ok grown =>
      rw [taken] at refused
      have moved := proceed_piece endpoint shared body disconnected chunk grown rest taken
      have further := run_proceeds endpoint shared tasks index first present waiting shared shared _ _ run moved
      exact ih grown further refused

end

section

variable (endpoint : Endpoint) (shared : Shared) (tasks : List Task) (index : Nat) (delivery : Delivery)
  (present : tasks[index]? = some (Task.start delivery)) (waiting : Waiting tasks index)

include present waiting

theorem asked_run (review : Review) (request : Request)
    (received : (endpoint.receive delivery).outcome = .ok (review, request)) :
    Run endpoint ⟨shared, tasks⟩ ⟨shared, tasks.set index (.asking review request)⟩ := by
  have begun := run_begun endpoint shared tasks index _ present
  cases gathered : Body.gather endpoint.limit ByteArray.empty delivery.chunks with
  | error failure =>
    rw [receive_overgrown endpoint delivery failure gathered] at received
    cases received
  | ok body =>
    have read := pieces_run endpoint shared tasks index _ present waiting delivery.chunks _ body _ begun gathered
    have whole := receive_gathered endpoint delivery.chunks body delivery.disconnected gathered
    rw [whole] at received
    exact run_proceeds endpoint shared tasks index _ present waiting shared shared _ _ read
      (proceed_received endpoint shared body delivery.disconnected review request received)

theorem refused_run (failure : Classified) (refused : (endpoint.receive delivery).outcome = .error failure) :
    Run endpoint ⟨shared, tasks⟩ ⟨(shared.close (.refused Origin.unknown failure)).1,
      tasks.set index (shared.close (.refused Origin.unknown failure)).2⟩ := by
  have begun := run_begun endpoint shared tasks index _ present
  cases gathered : Body.gather endpoint.limit ByteArray.empty delivery.chunks with
  | error early =>
    rw [receive_overgrown endpoint delivery early gathered] at refused
    cases refused
    exact overgrown_run endpoint shared tasks index _ present waiting delivery.chunks _ _ failure begun gathered
  | ok body =>
    have read := pieces_run endpoint shared tasks index _ present waiting delivery.chunks _ body _ begun gathered
    have whole := receive_gathered endpoint delivery.chunks body delivery.disconnected gathered
    rw [whole] at refused
    exact run_proceeds endpoint shared tasks index _ present waiting shared _ _ _ read
      (proceed_refused endpoint shared body delivery.disconnected failure refused)

/-- With the outcome of the decision function of the endpoint for its decision, a task comes to the answer of its
    request. -/
theorem handled_run : Run endpoint ⟨shared, tasks⟩
    ⟨{ shared with failures := (endpoint.handle shared.failures delivery).1 },
      tasks.set index (.done (endpoint.handle shared.failures delivery).2.2)⟩ := by
  rw [handle_failures, handle_answer]
  cases received : (endpoint.receive delivery).outcome with
  | error failure =>
    have comes : endpoint.course delivery = .refused Origin.unknown failure := by simp only [course, received]
    rw [comes]
    exact refused_run endpoint shared tasks index delivery present waiting failure received
  | ok pair =>
    obtain ⟨review, request⟩ := pair
    have asked := asked_run endpoint shared tasks index delivery present waiting review request received
    have given := run_gives endpoint shared tasks index _ present shared review request
      (.own (endpoint.judge review).outcome) asked
    have moved : (Task.given review request (.own (endpoint.judge review).outcome)).proceed endpoint shared =
        some (shared.close (endpoint.settle review request)) := by rw [Task.proceed, settle_giving]
    rw [course_settles endpoint delivery review request received]
    exact run_proceeds endpoint shared tasks index _ present waiting shared _ _ _ given moved

end

end Gatehouse.Endpoint
