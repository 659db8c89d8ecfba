import Gatehouse.Proofs.Listener.Calls

/- The listener while a run and a stop from outside share it. Once it has been bound it is held until the serving has
   ended, and each section of a call either leaves it held or gives it back. -/
namespace Gatehouse

namespace Engine

def ask (engine : Engine) : Engine := { engine with leaving := true }

def force (engine : Engine) : Engine := { engine with forced := true }

end Engine

namespace Listener

-- The serving has not been asked to end, and it has been asked to.
def Unasked (listener : Listener) : Prop := ∀ engine, listener.engine = some engine → engine.leaving = false

def Leaving (listener : Listener) : Prop := ∀ engine, listener.engine = some engine → engine.leaving = true

/-- Once bound, the listener is held by whoever serves or waits, and it is not given back before the serving has
    ended. -/
inductive Held (listener : Listener) : Option Ending → Prop where
  | going (engine : Engine) (built : listener.engine = some engine) (serving : listener.serving = some .going) :
    Held listener none
  | ended (engine : Engine) (ending : Ending) (built : listener.engine = some engine)
    (serving : listener.serving = some (.ended ending)) : Held listener (some ending)
  | released (ending : Ending) (released : listener.release = listener) : Held listener (some ending)

/- What the sections do to a listener that is held -/

section

variable (mainThread : Bool) (listener : Listener)

theorem leaveSignals_running : (listener.leaveSignals mainThread).running = listener.running := by
  cases mainThread <;> rfl

theorem leaveSignals_release :
    (listener.leaveSignals mainThread).release = listener.release.leaveSignals mainThread := by
  cases mainThread <;> rfl

theorem takeSignals_running : (listener.takeSignals mainThread).2.running = listener.running := by
  cases mainThread <;> rfl

theorem released_engine (released : listener.release = listener) : listener.engine = none := by
  rw [← released]
  rfl

theorem released_running (released : listener.release = listener) : listener.running = false := by
  rw [← released]
  rfl

theorem leaving_of_none (gone : listener.engine = none) : listener.Leaving := by
  intro engine built
  rw [gone] at built
  exact nomatch built

end

section

variable (listener : Listener) (change : Engine → Engine)

theorem changed_held (ended : Option Ending) (held : Held listener ended) :
    Held { listener with engine := listener.engine.map change } ended := by
  cases held with
  | going engine built serving => exact .going (change engine) (congrArg (Option.map change) built) serving
  | ended engine ending built serving =>
    exact .ended (change engine) ending (congrArg (Option.map change) built) serving
  | released ending released =>
    refine .released ending ?_
    rw [← released]
    rfl

theorem changed_leaving (leaves : ∀ engine, engine.leaving = true → (change engine).leaving = true)
    (leaving : listener.Leaving) : Leaving { listener with engine := listener.engine.map change } := by
  intro changed built
  obtain ⟨engine, held, rfl⟩ := Option.map_eq_some_iff.mp built
  exact leaves engine (leaving engine held)

theorem changed_released (released : listener.release = listener) :
    release { listener with engine := listener.engine.map change } =
      { listener with engine := listener.engine.map change } := by
  rw [← released]
  rfl

end

theorem ask_leaving (listener : Listener) :
    Leaving { listener with engine := listener.engine.map Engine.ask } := by
  intro asked built
  obtain ⟨engine, _, rfl⟩ := Option.map_eq_some_iff.mp built
  rfl

theorem running_held (listener : Listener) (ended : Option Ending) (held : Held listener ended)
    (going : listener.running = true) : ended = none ∧ ∃ engine, listener.engine = some engine := by
  cases held with
  | going engine built serving => exact ⟨rfl, engine, built⟩
  | ended engine ending built serving => simp [running, serving] at going
  | released ending released => simp [released_running listener released] at going

theorem held_engine (listener : Listener) (ended : Option Ending) (held : Held listener ended)
    (gone : listener.engine = none) : ended ≠ none := by
  cases held with
  | going engine built serving => simp [gone] at built
  | ended engine ending built serving => exact Option.some_ne_none ending
  | released ending released => exact Option.some_ne_none ending

theorem held_down (listener : Listener) (ended : Option Ending) (held : Held listener ended)
    (down : listener.running = false) : ended ≠ none := by
  cases held with
  | going engine built serving => simp [running, serving] at down
  | ended engine ending built serving => exact Option.some_ne_none ending
  | released ending released => exact Option.some_ne_none ending

theorem endServing_held (listener : Listener) (ended : Option Ending) (ending : Ending) (held : Held listener ended)
    (going : listener.running = true) : Held (listener.endServing ending) (some ending) := by
  obtain ⟨_, engine, built⟩ := running_held listener ended held going
  simp only [endServing, going, if_true]
  exact .ended engine ending built rfl

theorem endServing_engine (listener : Listener) (ending : Ending) :
    (listener.endServing ending).engine = listener.engine := by
  unfold endServing
  split <;> rfl

theorem endServing_handlers (listener : Listener) (ending : Ending) :
    (listener.endServing ending).handlers = listener.handlers := by
  unfold endServing
  split <;> rfl

theorem endServing_released (listener : Listener) (ending : Ending) (released : listener.release = listener) :
    (listener.endServing ending).release = listener.endServing ending := by
  simpa [endServing, released_running listener released] using released

theorem stopBegin_down (listener : Listener) (down : listener.running = false) :
    ∃ left, listener.stopBegin = ([], false, left) ∧ left.running = false := by
  cases built : listener.engine with
  | none => exact ⟨listener, by simp only [stopBegin, built], down⟩
  | some engine =>
    cases serving : listener.serving with
    | none => exact ⟨listener, by simp only [stopBegin, built, serving], down⟩
    | some serves =>
      cases serves with
      | going => simp [running, serving] at down
      | ended ending => exact ⟨listener.release, by simp only [stopBegin, built, serving], rfl⟩

/- A run before its shutdown -/

/-- What a run is refused with that finds its serving over: how it ended, or that its engine is gone. -/
inductive Meets (system : System) : Refusal → Prop where
  | ending (ending : Ending) (ended : system.ended = some ending) : Meets system (endError ending)
  | missing : Meets system missingEngine

section

variable (mainThread : Bool) (system : System)

theorem pollRun_cases (held : Held system.listener system.ended) :
    (∃ engine told, system.listener.engine = some engine ∧ system.ended = none ∧ system.pollRun mainThread =
      (system.tell told system.listener).set .run (if engine.ready then .serving else system.run)) ∨
    (system.ended ≠ none ∧ ∃ refusal, Meets system refusal ∧ system.pollRun mainThread =
      (system.tell [] system.listener.release).close mainThread .run (.raised refusal)) := by
  generalize same : system.ended = ended at held
  cases held with
  | going engine built serving =>
    cases ready : engine.ready with
    | false =>
      refine .inl ⟨engine, [], built, rfl, ?_⟩
      simp only [System.pollRun, startPoll, built, serving, ready, Bool.false_eq_true, if_false]
      rfl
    | true =>
      cases socket : system.listener.socket with
      | none =>
        refine .inl ⟨engine, [], built, rfl, ?_⟩
        simp only [System.pollRun, startPoll, built, serving, ready, socket, if_true]
      | some bound =>
        refine .inl ⟨engine, [listening system.listener.setup bound.address], built, rfl, ?_⟩
        simp only [System.pollRun, startPoll, built, serving, ready, socket, if_true]
  | ended engine ending built serving =>
    refine .inr ⟨Option.some_ne_none ending, endError ending, .ending ending same, ?_⟩
    simp only [System.pollRun, startPoll, built, serving]
  | released ending released =>
    refine .inr ⟨Option.some_ne_none ending, missingEngine, .missing, ?_⟩
    simp only [System.pollRun, startPoll, released_engine _ released, released]

theorem wake_serving (ending : Ending) (woken : system.wake = .serving ending) :
    system.listener.serving = some (.ended ending) := by
  unfold System.wake at woken
  split at woken
  · rename_i served
    rwa [Wake.serving.inj woken] at served
  · exact nomatch woken
  · exact nomatch woken

theorem held_ended (listener : Listener) (ended : Option Ending) (held : Held listener ended) (ending : Ending)
    (serving : listener.serving = some (.ended ending)) : ended = some ending := by
  cases held with
  | going engine built going => simp [going] at serving
  | ended engine other built served =>
    exact congrArg some (Serving.ended.inj (Option.some.inj (served.symm.trans serving)))
  | released other released =>
    rw [← released] at serving
    exact nomatch serving

theorem wakeRun_cases (held : Held system.listener system.ended) :
    (∃ told, system.wakeRun mainThread = (system.tell told system.listener).beginHalt mainThread .run) ∨
    (system.ended ≠ none ∧ ∃ told refusal, Meets system refusal ∧ system.wakeRun mainThread =
      (system.tell told system.listener.release).close mainThread .run (.raised refusal)) := by
  cases woken : system.wake with
  | serving ending =>
    have ended := held_ended _ _ held ending (wake_serving system ending woken)
    refine .inr ⟨by simp [ended], [wakeEntry system.wake], endError ending, .ending ending ended, ?_⟩
    simp only [System.wakeRun, woken]
  | signal | asked | dropped =>
    refine .inl ⟨[wakeEntry system.wake], ?_⟩
    simp only [System.wakeRun, woken]

end

/- A shutdown, whoever is in it -/

section

variable (mainThread : Bool) (system : System) (caller : Caller)

theorem beginHalt_cases (held : Held system.listener system.ended) :
    (system.ended = none ∧ ∃ told, system.beginHalt mainThread caller =
      (system.tell told { system.listener with engine := system.listener.engine.map Engine.ask }).set caller
        (.stopping .waiting)) ∨
    (system.ended ≠ none ∧ system.beginHalt mainThread caller =
      (system.tell [] system.listener.release).close mainThread caller .returned) := by
  generalize same : system.ended = ended at held
  cases held with
  | going engine built going =>
    refine .inl ⟨rfl, [⟨.info, "server shutting down"⟩], ?_⟩
    simp only [System.beginHalt, stopBegin, built, going, Option.map_some, Engine.ask]
  | ended engine ending built ended =>
    refine .inr ⟨Option.some_ne_none ending, ?_⟩
    simp only [System.beginHalt, stopBegin, built, ended]
  | released ending released =>
    refine .inr ⟨Option.some_ne_none ending, ?_⟩
    simp only [System.beginHalt, stopBegin, released_engine _ released, released]

theorem forceHalt_cases :
    (∃ told, system.forceHalt mainThread caller =
      (system.tell told { system.listener with engine := system.listener.engine.map Engine.force }).set caller
        (.stopping .forced)) ∨
    (system.listener.engine = none ∧ ∃ told, system.forceHalt mainThread caller =
      (system.tell told system.listener.release).close mainThread caller (.raised System.unforced)) := by
  cases built : system.listener.engine with
  | none =>
    refine .inr ⟨rfl, system.listener.stopForce.1, ?_⟩
    simp only [System.forceHalt, built]
    rfl
  | some engine =>
    refine .inl ⟨system.listener.stopForce.1, ?_⟩
    simp only [System.forceHalt, built, stopForce]
    rfl

theorem finishHalt_released (halt : Halt) (ending : Ending) :
    ∃ told outcome, system.finishHalt mainThread caller halt ending =
      (system.tell told system.listener.release).close mainThread caller outcome ∧
      (ending = .finished → outcome = .returned) := by
  cases ending with
  | finished => cases halt <;> exact ⟨_, _, rfl, fun _ => rfl⟩
  | exited status => cases halt <;> exact ⟨_, _, rfl, nofun⟩
  | failed failure => cases halt <;> exact ⟨_, _, rfl, nofun⟩

end

end Listener
end Gatehouse
