import Gatehouse.Proofs.Endpoint.Tasks
import Gatehouse.Proofs.Endpoint.Version

/- Whom an answer is for. Every review that is sent bears the mark of its own request, however the requests were
   interleaved and whatever the decision function gave, one response for several of them included; without a request
   that could be read the mark is empty. -/
namespace Gatehouse.Endpoint

-- A text of reviews that answer, each of them with this mark.
def Bears (body : String) (uid : String) : Prop :=
  (∃ sent response, body = Codec.encode .review sent ∧ sent.response = some response) ∧
    ∀ sent response, body = Codec.encode .review sent → sent.response = some response → response.uid = uid

theorem answer_bears (apiVersion : ApiVersion) (response : Response) :
    Bears (Codec.encode .review (answerWith apiVersion response)) response.uid := by
  refine ⟨⟨_, response, rfl, rfl⟩, fun sent other same present => ?_⟩
  exact (Review.same_text_uid _ _ _ _ rfl rfl present same).symm

theorem closing_bears (failures : Nat) (apiVersion : ApiVersion) (response : Response) (body : String)
    (sent : (closing failures (answerWith apiVersion response)).2 = .review body) : Bears body response.uid := by
  cases failures with
  | zero =>
    cases sent
    exact answer_bears apiVersion response
  | succ left => cases sent

theorem close_bears (endpoint : Endpoint) (failures : Nat) (delivery : Delivery) (body : String)
    (sent : ((endpoint.course delivery).close failures).2 = .review body) :
    Bears body (endpoint.course delivery).origin.uid := by
  cases came : endpoint.course delivery with
  | refused origin failure =>
    rw [came] at sent
    exact closing_bears failures origin.apiVersion _ body sent
  | answered origin review =>
    obtain ⟨response, rfl, marked⟩ := course_answers endpoint delivery origin review came
    rw [came] at sent
    cases failures with
    | zero =>
      have bears := closing_bears 0 origin.apiVersion response body sent
      rwa [marked] at bears
    | succ left => exact closing_bears left origin.apiVersion _ body sent

theorem course_origin_refused (endpoint : Endpoint) (delivery : Delivery)
    (unreceived : ¬ ∃ review request, Received endpoint delivery review request) :
    (endpoint.course delivery).origin = Origin.unknown := by
  cases received : (endpoint.receive delivery).outcome with
  | error failure => simp only [course, received, Course.origin]
  | ok pair => exact absurd ⟨pair.1, pair.2, (receive_received _ _ _ _).mp received⟩ unreceived

/-- Every review that answers a request bears the mark of that request. -/
theorem answers_correlated (endpoint : Endpoint) (deliveries : List Delivery) (shared : Shared) (system : System)
    (run : Run endpoint ⟨shared, deliveries.map Task.start⟩ system) (index : Nat) (delivery : Delivery) (body : String)
    (came : deliveries[index]? = some delivery) (answered : system.tasks[index]? = some (.done (.review body))) :
    (∀ review request, Received endpoint delivery review request → Bears body request.uid) ∧
      ((¬ ∃ review request, Received endpoint delivery review request) → Bears body "") := by
  obtain ⟨outcome, failures, sent⟩ := answered_alone endpoint deliveries shared system run index delivery _ came answered
  rw [handle_answer] at sent
  have bears := close_bears (endpoint.giving outcome) failures delivery body sent.symm
  -- Reading does not look at the decision function.
  have same : (endpoint.giving outcome).receive delivery = endpoint.receive delivery := rfl
  constructor
  · intro review request whole
    have received := (receive_received _ _ _ _).mpr whole
    rw [← same] at received
    rwa [course_origin_asked _ _ _ _ received] at bears
  · intro unreceived
    have origin := course_origin_refused (endpoint.giving outcome) delivery fun received => ?_
    · rwa [origin] at bears
    · obtain ⟨review, request, whole⟩ := received
      have received := (receive_received _ _ _ _).mpr whole
      rw [same] at received
      exact unreceived ⟨review, request, (receive_received _ _ _ _).mp received⟩

/- Two requests whose decisions are both made before either is answered, by a function that gives the same response for
   both, with a mark of its own. -/

theorem waiting_all (tasks : List Task) (index : Nat) (all : ∀ task ∈ tasks, task.waits = true) :
    Waiting tasks index := fun _ task _ present => all task (List.mem_of_getElem? present)

theorem shared_run (endpoint : Endpoint) (shared : Shared) (tasks : List Task) (index place : Nat) (review : Review)
    (request : Request) (present : tasks[index]? = some (.given review request (.shared place)))
    (waiting : Waiting tasks index) (works : shared.failures = 0) : Run endpoint ⟨shared, tasks⟩
      ⟨shared.mark place request.uid, tasks.set index (.done (.review (Codec.encode .review
        (answerWith review.apiVersion { shared.responses place with uid := request.uid }))))⟩ := by
  have begun := run_begun endpoint shared tasks index _ present
  have marked := run_proceeds endpoint shared tasks index _ present waiting shared (shared.mark place request.uid) _
    (.marked review request place) begun rfl
  have moved : (Task.marked review request place).proceed endpoint (shared.mark place request.uid) =
      some (shared.mark place request.uid, .done (.review (Codec.encode .review
        (answerWith review.apiVersion { shared.responses place with uid := request.uid })))) := by
    simp [Task.proceed, Shared.close, Shared.mark, works, Course.close, closing]
  exact run_proceeds endpoint shared tasks index _ present waiting _ _ _ _ marked moved

def askedAs (uid : String) : Json := .object [("request", .object [("uid", .string uid)])]

def requestAs (uid : String) : Request :=
  ⟨uid, ⟨"", "", ""⟩, none, none, none, none, none, none, none, none, none, none⟩

def reviewAs (uid : String) : Review := ⟨.v1, Review.title, some (requestAs uid), none⟩

def deliveryAs (uid : String) : Delivery := ⟨[Utf8.encode ((askedAs uid).text Json.compact)], false⟩

def sharing : Endpoint :=
  ⟨fun _ => pure (.response ⟨"c3", true, none, none, none, none⟩), "share",
    (Utf8.encode ((askedAs "a1").text Json.compact)).size + (Utf8.encode ((askedAs "b2").text Json.compact)).size⟩

def oneResponse : Shared := ⟨fun _ => ⟨"c3", true, none, none, none, none⟩, 0⟩

def answeredAs (uid : String) : Task :=
  .done (.review (Codec.encode .review (answerWith .v1 ⟨uid, true, none, none, none, none⟩)))

theorem asked_received (uid : String) (within : (Utf8.encode ((askedAs uid).text Json.compact)).size ≤ sharing.limit) :
    Received sharing (deliveryAs uid) (reviewAs uid) (requestAs uid) := by
  have fits : (askedAs uid).Fits nestingRoom := by simp [askedAs, nestingRoom, Json.AllFit]
  exact written_received sharing (askedAs uid) (reviewAs uid) (requestAs uid) fits rfl rfl rfl within

theorem sharing_run : ∃ shared, Run sharing ⟨oneResponse, [deliveryAs "a1", deliveryAs "b2"].map Task.start⟩
    ⟨shared, [answeredAs "a1", answeredAs "b2"]⟩ := by
  have first := (receive_received _ _ _ _).mpr (asked_received "a1" (Nat.le_add_right _ _))
  have second := (receive_received _ _ _ _).mpr (asked_received "b2" (Nat.le_add_left _ _))
  have firstAsks := asked_run sharing oneResponse [Task.start (deliveryAs "a1"), Task.start (deliveryAs "b2")] 0
    (deliveryAs "a1") rfl (waiting_all _ _ (by simp [Task.start, Task.waits])) _ _ first
  have secondAsks := asked_run sharing oneResponse
    [.asking (reviewAs "a1") (requestAs "a1"), Task.start (deliveryAs "b2")] 1 (deliveryAs "b2") rfl
    (waiting_all _ _ (by simp [Task.start, Task.waits])) _ _ second
  have firstGiven : Step sharing _ _ := .give oneResponse
    [.asking (reviewAs "a1") (requestAs "a1"), .asking (reviewAs "b2") (requestAs "b2")] 0 _ _ (.shared 0) rfl
  have secondGiven : Step sharing _ _ := .give oneResponse
    [.given (reviewAs "a1") (requestAs "a1") (.shared 0), .asking (reviewAs "b2") (requestAs "b2")] 1 _ _ (.shared 0) rfl
  have secondSent := shared_run sharing oneResponse
    [.given (reviewAs "a1") (requestAs "a1") (.shared 0), .given (reviewAs "b2") (requestAs "b2") (.shared 0)] 1 0 _ _ rfl
    (waiting_all _ _ (by simp [Task.waits])) rfl
  have firstSent := shared_run sharing (oneResponse.mark 0 "b2")
    [.given (reviewAs "a1") (requestAs "a1") (.shared 0), answeredAs "b2"] 0 0 _ _ rfl
    (waiting_all _ _ (by simp [answeredAs, Task.waits])) rfl
  exact ⟨_, ((((firstAsks.trans secondAsks).tail firstGiven).tail secondGiven).trans secondSent).trans firstSent⟩

theorem shared_response_correlated : ∃ shared left right,
    Run sharing ⟨oneResponse, [deliveryAs "a1", deliveryAs "b2"].map Task.start⟩
      ⟨shared, [.done (.review left), .done (.review right)]⟩ ∧
    Received sharing (deliveryAs "a1") (reviewAs "a1") (requestAs "a1") ∧ Bears left "a1" ∧
    Received sharing (deliveryAs "b2") (reviewAs "b2") (requestAs "b2") ∧ Bears right "b2" := by
  obtain ⟨shared, run⟩ := sharing_run
  have first := asked_received "a1" (Nat.le_add_right _ _)
  have second := asked_received "b2" (Nat.le_add_left _ _)
  exact ⟨shared, _, _, run, first, (answers_correlated sharing _ oneResponse _ run 0 _ _ rfl rfl).1 _ _ first, second,
    (answers_correlated sharing _ oneResponse _ run 1 _ _ rfl rfl).1 _ _ second⟩

end Gatehouse.Endpoint
