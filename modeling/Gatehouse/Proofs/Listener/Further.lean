import Gatehouse.Proofs.Listener.Returns

/- Further calls on a listener that a run keeps running. Such a call is refused before it waits for anything, so it is
   one section as a whole. It leaves everything that serves as it is; but a run takes the signals over before it is
   refused and gives them back afterwards, and then no signal reaches the run that goes on. -/
namespace Gatehouse.Listener

-- A further call, with all that it would depend on if it were not refused.
inductive Further where
  | start (bound : Except String Address) (startup : Startup)
  | run (mainThread : Bool) (bound : Except String Address) (startup : Startup) (wake : Wake) (drain : Drain)

namespace Further

def turn : Further → Listener → Turn
  | .start bound startup, listener => listener.start bound startup
  | .run mainThread bound startup wake drain, listener => listener.run mainThread bound startup wake drain

-- Whether the call takes the signals over.
def takes : Further → Bool
  | .start .. => false
  | .run mainThread .. => mainThread

end Further

def furthered (calls : List Further) (listener : Listener) : Listener :=
  calls.foldl (fun listener call => (call.turn listener).listener) listener

def System.further (call : Further) (system : System) : System :=
  system.tell (call.turn system.listener).journal (call.turn system.listener).listener

/-- A run, a stop from outside and the further calls that have been refused so far. -/
inductive Shared (mainThread : Bool) (bound : Except String Address) (first : System) : List Further → System → Prop
    where
  | begins : Shared mainThread bound first [] first
  | goes (calls : List Further) (before after : System) (shared : Shared mainThread bound first calls before)
    (step : Step mainThread bound before after) : Shared mainThread bound first calls after
  | refuses (calls : List Further) (before : System) (call : Further)
    (shared : Shared mainThread bound first calls before) (going : before.listener.running = true) :
    Shared mainThread bound first (calls ++ [call]) (before.further call)

/- A further call -/

section

variable (listener : Listener) (going : listener.running = true)

include going

theorem start_refused (bound : Except String Address) (startup : Startup) :
    listener.start bound startup = ⟨[], .raised alreadyRunning, listener⟩ := by
  simp only [start, startBegin, going, if_true]

theorem run_refused (mainThread : Bool) (bound : Except String Address) (startup : Startup) (wake : Wake)
    (drain : Drain) :
    listener.run mainThread bound startup wake drain =
      ⟨(listener.takeSignals mainThread).1, .raised alreadyRunning,
        (listener.takeSignals mainThread).2.leaveSignals mainThread⟩ := by
  have taken : (listener.takeSignals mainThread).2.running = true :=
    (takeSignals_running mainThread listener).trans going
  simp only [Listener.run, start_refused _ taken, List.append_nil]

theorem further_refused (call : Further) :
    (call.turn listener).outcome = .raised alreadyRunning ∧ ∃ runs, (call.turn listener).listener =
      { listener with handlers := if call.takes then [] else listener.handlers, runs := runs } := by
  cases call with
  | start bound startup =>
    rw [Further.turn, start_refused listener going]
    exact ⟨rfl, listener.runs, rfl⟩
  | run mainThread bound startup wake drain =>
    rw [Further.turn, run_refused listener going]
    cases mainThread <;> exact ⟨rfl, listener.runs + 1, rfl⟩

theorem furthered_kept (calls : List Further) :
    ∃ runs, furthered calls listener =
      { listener with handlers := if calls.any Further.takes then [] else listener.handlers, runs := runs } := by
  induction calls generalizing listener with
  | nil => exact ⟨listener.runs, rfl⟩
  | cons call rest ih =>
    obtain ⟨_, once, left⟩ := further_refused listener going call
    obtain ⟨runs, kept⟩ := ih (call.turn listener).listener (by rw [left]; exact going)
    refine ⟨runs, kept.trans ?_⟩
    rw [left]
    cases taken : call.takes <;> simp [taken]

theorem furthered_running (calls : List Further) : (furthered calls listener).running = true := by
  obtain ⟨runs, kept⟩ := furthered_kept listener going calls
  rw [kept]
  exact going

end

/- What holds of a run and a stop holds with further calls between them -/

section

variable (system : System) (handlers : List (Signal × Nat)) (runs : Nat) (journal : Journal)

theorem rehandled_held (listener : Listener) (ended : Option Ending) (held : Held listener ended) :
    Held { listener with handlers := handlers, runs := runs } ended := by
  cases held with
  | going engine built serving => exact .going engine built serving
  | ended engine ending built serving => exact .ended engine ending built serving
  | released ending released =>
    refine .released ending ?_
    rw [← released]
    rfl

theorem rehandled_begun (begun : Begun system) :
    Begun { system with
      listener := { system.listener with handlers := handlers, runs := runs }, journal := journal } := by
  have keeps : Keeps system { system with
      listener := { system.listener with handlers := handlers, runs := runs }, journal := journal } := by
    refine ⟨id, id, fun _ => id, id, fun released => ?_⟩
    rw [← released]
    rfl
  exact ⟨⟨rehandled_held handlers runs _ _ begun.held, begun.finished,
    run_kept system _ _ begun.run keeps (fun _ quiet => .inr (.inr quiet)) fun _ _ => .inl⟩,
    stop_kept system _ _ begun.stop keeps rfl⟩

end

theorem sound_going (system : System) (sound : Sound system) (going : system.listener.running = true) :
    Begun system := by
  cases sound with
  | resting resting => simp [resting.down] at going
  | begun begun => exact begun

-- While the listener is running, the run that began it is not over.
theorem going_underway (system : System) (begun : Begun system) (going : system.listener.running = true) :
    system.ended = none ∧ (∃ engine, system.listener.engine = some engine) ∧
      system.listener.serving = some .going ∧
      (system.run = .starting ∨ system.run = .serving ∨ ∃ halt, system.run = .stopping halt) := by
  obtain ⟨unended, built⟩ := running_held _ _ begun.held going
  refine ⟨unended, built, by simpa [running] using going, ?_⟩
  have found := found_going system system.run begun.run begun.held unended
  cases run : system.run with
  | fresh | done => simp [run, Call.found] at found
  | starting => exact .inl rfl
  | serving => exact .inr (.inl rfl)
  | stopping halt => exact .inr (.inr ⟨halt, rfl⟩)

section

variable (mainThread : Bool) (bound : Except String Address) (first : System) (calls : List Further)
  (system : System)

theorem shared_sound (sound : Sound first) (shared : Shared mainThread bound first calls system) :
    Sound system := by
  induction shared with
  | begins => exact sound
  | goes calls before after _ step ih => exact step_sound mainThread bound before after ih step
  | refuses calls before call _ going ih =>
    obtain ⟨_, runs, left⟩ := further_refused before.listener going call
    rw [System.further, left]
    exact .begun (rehandled_begun before _ runs _ (sound_going before ih going))

theorem shared_steps (shared : Shared mainThread bound first calls system) (reached : System)
    (steps : Steps mainThread bound system reached) : Shared mainThread bound first calls reached := by
  induction steps with
  | refl => exact shared
  | tail _ step ih => exact .goes calls _ _ ih step

theorem shared_onwards (more : List Further) (reached : System)
    (shared : Shared mainThread bound first calls system) (onwards : Shared mainThread bound system more reached) :
    Shared mainThread bound first (calls ++ more) reached := by
  induction onwards with
  | begins => rwa [List.append_nil]
  | goes more before after _ step ih => exact .goes _ before after ih step
  | refuses more before call _ going ih =>
    rw [← List.append_assoc]
    exact .refuses _ before call ih going

end
end Gatehouse.Listener
