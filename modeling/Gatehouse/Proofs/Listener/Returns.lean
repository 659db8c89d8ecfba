import Gatehouse.Proofs.Listener.Sound

/- How the calls come to their ends. As long as the listener can be bound and does not end of itself, a run ends without
   a refusal, and so does a stop from outside, if that finds no run underway and no grace period runs out for the two of
   them; the listener is given back by then. -/
namespace Gatehouse.Listener

-- Whether anything has failed or run late, and what the stop from outside found.
def System.happened (system : System) : Bool × Bool × Option Found := (system.failed, system.overtime, system.found)

section

variable (mainThread : Bool) (bound : Except String Address)

-- A call can be brought to its end without anything failing or running late.
def Ends (system : System) (caller : Caller) : Prop :=
  ∃ reached outcome, Steps mainThread bound system reached ∧ reached.happened = system.happened ∧
    reached.call caller = .done outcome

variable (system : System) (caller : Caller)

theorem done_ends (outcome : Outcome) (done : system.call caller = .done outcome) :
    Ends mainThread bound system caller :=
  ⟨system, outcome, .refl, rfl, done⟩

theorem step_ends (next : System) (step : Step mainThread bound system next)
    (same : next.happened = system.happened) (ends : Ends mainThread bound next caller) :
    Ends mainThread bound system caller := by
  obtain ⟨reached, outcome, steps, unchanged, done⟩ := ends
  exact ⟨reached, outcome, .head step steps, unchanged.trans same, done⟩

theorem closed_done (outcome : Outcome) : (system.close mainThread caller outcome).call caller = .done outcome := by
  cases caller <;> rfl

theorem closed_happened (outcome : Outcome) : (system.close mainThread caller outcome).happened = system.happened := by
  cases caller <;> rfl

theorem set_call (call : Call) : (system.set caller call).call caller = call := by
  cases caller <;> rfl

theorem set_happened (call : Call) : (system.set caller call).happened = system.happened := by
  cases caller <;> rfl

-- The step by which a call ends.
theorem closes_ends (closing : System) (outcome : Outcome)
    (step : Step mainThread bound system (closing.close mainThread caller outcome))
    (same : closing.happened = system.happened) : Ends mainThread bound system caller :=
  step_ends mainThread bound system caller _ step ((closed_happened mainThread closing caller outcome).trans same)
    (done_ends mainThread bound _ caller outcome (closed_done mainThread closing caller outcome))

theorem ended_ends (halt : Halt) (ending : Ending) (stopping : system.call caller = .stopping halt)
    (awaits : halt ≠ .late) (ended : system.ended = some ending) : Ends mainThread bound system caller := by
  have step : Step mainThread bound system (system.finishHalt mainThread caller halt ending) :=
    .halts system caller halt ending stopping awaits ended
  obtain ⟨told, outcome, finished, _⟩ := finishHalt_released mainThread system caller halt ending
  rw [finished] at step
  exact closes_ends mainThread bound system caller _ outcome step rfl

theorem stopping_leaving (begun : Begun system) (halt : Halt) (stopping : system.call caller = .stopping halt) :
    system.listener.Leaving := by
  cases caller with
  | run => exact (run_stopped system halt (stopping ▸ begun.run)).1
  | stop => exact (stop_stopped system halt (stopping ▸ begun.stop)).1

theorem waiting_ends (begun : Begun system) (halt : Halt) (stopping : system.call caller = .stopping halt)
    (awaits : halt ≠ .late) : Ends mainThread bound system caller := by
  have held := begun.held
  generalize same : system.ended = ended at held
  cases held with
  | going engine built serving =>
    have going : system.listener.running = true := by simp [running, serving]
    refine step_ends mainThread bound system caller _
      (.leaves system engine going built (stopping_leaving system caller begun halt stopping engine built)) rfl ?_
    refine ended_ends mainThread bound _ caller halt .finished ?_ awaits rfl
    cases caller with
    | run => exact stopping
    | stop => exact stopping
  | ended engine ending => exact ended_ends mainThread bound system caller halt ending stopping awaits same
  | released ending => exact ended_ends mainThread bound system caller halt ending stopping awaits same

theorem stopping_ends (begun : Begun system) (halt : Halt) (stopping : system.call caller = .stopping halt) :
    Ends mainThread bound system caller := by
  by_cases late : halt = .late
  · subst late
    have forced := forceHalt_begun mainThread system begun caller stopping
    have step : Step mainThread bound system (system.forceHalt mainThread caller) := .forces system caller stopping
    rcases forceHalt_cases mainThread system caller with ⟨told, same⟩ | ⟨_, told, same⟩
    · rw [same] at forced step
      refine step_ends mainThread bound system caller _ step (set_happened (system.tell told _) caller _) ?_
      exact waiting_ends mainThread bound _ caller forced .forced (set_call _ caller _) (by decide)
    · rw [same] at step
      exact closes_ends mainThread bound system caller _ _ step rfl
  · exact waiting_ends mainThread bound system caller begun halt stopping late

-- The step by which a run begins to shut down.
theorem halting_ends (halting : System) (begun : Begun halting)
    (step : Step mainThread bound system (halting.beginHalt mainThread .run))
    (same : halting.happened = system.happened) : Ends mainThread bound system .run := by
  have halted := haltRun_begun mainThread halting begun
  rcases beginHalt_cases mainThread halting .run begun.held with ⟨_, told, begins⟩ | ⟨_, begins⟩
  · rw [begins] at step halted
    refine step_ends mainThread bound system .run _ step same ?_
    exact stopping_ends mainThread bound _ .run halted .waiting rfl
  · rw [begins] at step
    exact closes_ends mainThread bound system .run _ _ step same

-- A run that serves is woken by the event, if by nothing else.
theorem serving_ends (begun : Begun system) (serving : system.run = .serving) :
    Ends mainThread bound system .run := by
  have asked : Begun { system with asked := true } :=
    unmoved_begun system begun system.run begun.run system.signals true system.journal
  have step : Step mainThread bound { system with asked := true }
      (System.wakeRun mainThread { system with asked := true }) := .runWakes _ serving (.inr (.inr rfl))
  refine step_ends mainThread bound system .run _ (.asks system) rfl ?_
  rcases wakeRun_cases mainThread _ asked.held with ⟨told, woken⟩ | ⟨_, told, refusal, _, woken⟩
  · rw [woken] at step
    exact halting_ends mainThread bound _ _ (unmoved_begun _ asked system.run asked.run system.signals true _) step rfl
  · rw [woken] at step
    exact closes_ends mainThread bound _ .run _ _ step rfl

theorem ready_ends (begun : Begun system) (starting : system.run = .starting)
    (ready : system.listener.running = false ∨
      ∀ engine, system.listener.engine = some engine → engine.ready = true) : Ends mainThread bound system .run := by
  have polls := pollRun_begun mainThread system begun starting
  have step : Step mainThread bound system (system.pollRun mainThread) := .runPolls system starting
  rcases pollRun_cases mainThread system begun.held with
    ⟨engine, told, built, unended, polled⟩ | ⟨_, refusal, _, polled⟩
  · have is_ready := ready.resolve_left (fun down => held_down _ _ begun.held down unended) engine built
    rw [polled, is_ready] at polls step
    exact step_ends mainThread bound system .run _ step rfl (serving_ends mainThread bound _ polls rfl)
  · rw [polled] at step
    exact closes_ends mainThread bound system .run _ _ step rfl

theorem starting_ends (begun : Begun system) (starting : system.run = .starting) :
    Ends mainThread bound system .run := by
  cases going : system.listener.running with
  | false => exact ready_ends mainThread bound system begun starting (.inl going)
  | true =>
    refine step_ends mainThread bound system .run _ (.becomesReady system going) rfl ?_
    refine ready_ends mainThread bound _ (becomeReady_begun system begun) starting (.inr fun engine built => ?_)
    obtain ⟨before, _, rfl⟩ := Option.map_eq_some_iff.mp built
    rfl

-- Whoever has begun can be brought to an end.
theorem begun_ends (begun : Begun system) (fresh : system.call caller ≠ .fresh) :
    Ends mainThread bound system caller := by
  cases call : system.call caller with
  | fresh => exact absurd call fresh
  | starting =>
    cases caller with
    | run => exact starting_ends mainThread bound system begun call
    | stop => exact nomatch (show StopSound system .starting from call ▸ begun.stop)
  | serving =>
    cases caller with
    | run => exact serving_ends mainThread bound system begun call
    | stop => exact nomatch (show StopSound system .serving from call ▸ begun.stop)
  | stopping halt => exact stopping_ends mainThread bound system caller begun halt call
  | done outcome => exact done_ends mainThread bound system caller outcome call

theorem sound_ends (sound : Sound system) (fresh : system.call caller ≠ .fresh) :
    Ends mainThread bound system caller := by
  cases sound with
  | begun begun => exact begun_ends mainThread bound system caller begun fresh
  | resting resting =>
    cases caller with
    | run =>
      obtain ⟨_, refusal, done⟩ := resting.run.resolve_left fresh
      exact done_ends mainThread bound system .run _ done
    | stop => exact done_ends mainThread bound system .stop _ (resting.stop.resolve_left fresh)

end

/- How they end -/

/-- What can be relied on in a system of a run and a stop from outside, however far it is. -/
structure Accounted (mainThread : Bool) (bound : Except String Address) (system : System) : Prop where
  run : system.failed = false → system.found ≠ some .underway → (system.overtime = true → system.found = none) →
    ∀ outcome, system.run = .done outcome → outcome = .returned
  disturbed : system.failed = false → system.overtime = false → ∀ outcome, system.run = .done outcome →
    outcome = .returned ∨ (system.found = some .underway ∧ Disturbed outcome)
  stop : system.failed = false → (system.overtime = true → system.found = none) →
    ∀ outcome, system.stop = .done outcome → outcome = .returned
  refused : ∀ text, system.run = .done (.raised (.listener text)) →
    system.failed = true ∨ system.found = some .underway
  down : ∀ outcome, system.run = .done outcome → system.listener.running = false
  released : system.failed = false → ∀ outcome, system.run = .done outcome → system.listener.release = system.listener
  ends : ∀ caller, system.call caller ≠ .fresh → Ends mainThread bound system caller

section

variable (system : System)

theorem resting_accounted (mainThread : Bool) (bound : Except String Address) (resting : Resting system) :
    Accounted mainThread bound system := by
  have unbound (outcome : Outcome) (done : system.run = .done outcome) : system.failed = true := by
    rcases resting.run with fresh | ⟨failed, _⟩
    · exact nomatch fresh.symm.trans done
    · exact failed
  refine ⟨?_, ?_, ?_, ?_, fun _ _ => resting.down, ?_,
    fun caller => sound_ends mainThread bound system caller (.resting resting)⟩
  · intro sound _ _ outcome done
    exact nomatch sound.symm.trans (unbound outcome done)
  · intro sound _ outcome done
    exact nomatch sound.symm.trans (unbound outcome done)
  · intro _ _ outcome done
    rcases resting.stop with fresh | returned
    · exact nomatch fresh.symm.trans done
    · exact (Call.done.inj (returned.symm.trans done)).symm
  · exact fun text done => .inl (unbound _ done)
  · intro sound outcome done
    exact nomatch sound.symm.trans (unbound outcome done)

theorem begun_accounted (mainThread : Bool) (bound : Except String Address) (begun : Begun system) :
    Accounted mainThread bound system := by
  refine ⟨?_, ?_, ?_, ?_, ?_, ?_, fun caller => begun_ends mainThread bound system caller begun⟩
  · intro sound elsewhere inTime outcome done
    rcases (run_done system outcome (done ▸ begun.run)).2 with returned | failed | ⟨found, _⟩ | ⟨_, late, found⟩
    · exact returned
    · exact nomatch sound.symm.trans failed
    · exact absurd found elsewhere
    · exact absurd (inTime late) found
  · intro sound inTime outcome done
    rcases (run_done system outcome (done ▸ begun.run)).2 with returned | failed | disturbed | ⟨_, late, _⟩
    · exact .inl returned
    · exact nomatch sound.symm.trans failed
    · exact .inr disturbed
    · exact nomatch inTime.symm.trans late
  · intro sound inTime outcome done
    rcases stop_done system outcome (done ▸ begun.stop) with returned | failed | ⟨late, found⟩
    · exact returned
    · exact nomatch sound.symm.trans failed
    · exact absurd (inTime late) found
  · intro text done
    rcases (run_done system _ (done ▸ begun.run)).2 with returned | failed | ⟨found, _⟩ | ⟨unforced, _⟩
    · exact nomatch returned
    · exact .inl failed
    · exact .inr found
    · exact nomatch unforced
  · exact fun outcome done => released_running _ (run_done system outcome (done ▸ begun.run)).1
  · exact fun _ outcome done => (run_done system outcome (done ▸ begun.run)).1

end

/-- A run and a stop from outside on a listener that is not running, at every moment and in every order of what may
    happen: neither is refused as long as the listener is bound and does not end of itself, the stop finds no run
    underway and no grace period runs out for the two of them. A run that the stop finds underway returns, or is refused
    in one of two ways. -/
theorem calls_accounted (mainThread : Bool) (bound : Except String Address) (listener : Listener)
    (down : listener.running = false) (system : System)
    (steps : Steps mainThread bound (System.initial listener) system) : Accounted mainThread bound system := by
  cases steps_sound mainThread bound _ system (initial_sound listener down) steps with
  | resting resting => exact resting_accounted system mainThread bound resting
  | begun begun => exact begun_accounted system mainThread bound begun

def cleartext : Setup := ⟨"127.0.0.1", 8443, none, .ofNat false 15, false⟩

def loopback : Address := ⟨"127.0.0.1", 8443⟩

-- A run is told to end by a signal, and is stopped from outside while it shuts down.
theorem terminated_run_accounted : (idle cleartext).running = false ∧
    ∃ system, Steps true (.ok loopback) (System.initial (idle cleartext)) system ∧ system.failed = false ∧
      system.found = some .leaving ∧ system.overtime = false ∧ system.run = .done .returned ∧
      system.stop = .done .returned ∧ Accounted true (.ok loopback) system := by
  obtain ⟨system, steps, happened⟩ : ∃ system, Steps true (.ok loopback) (System.initial (idle cleartext)) system ∧
      system.failed = false ∧ system.found = some .leaving ∧ system.overtime = false ∧
      system.run = .done .returned ∧ system.stop = .done .returned :=
    ⟨_, .head (.runBegins _ rfl) <| .head (.becomesReady _ rfl) <| .head (.runPolls _ rfl) <|
      .head (.signals _ .terminate (by decide)) <| .head (.runWakes _ rfl (.inr (.inl nofun))) <|
      .head (.stopBegins _ rfl) <| .head (.leaves _ _ rfl rfl rfl) <|
      .head (.halts _ .stop .waiting .finished rfl nofun rfl) <|
      .single (.halts _ .run .waiting .finished rfl nofun rfl), rfl, rfl, rfl, rfl, rfl⟩
  obtain ⟨sound, found, inTime, run, stop⟩ := happened
  exact ⟨rfl, system, steps, sound, found, inTime, run, stop,
    calls_accounted true (.ok loopback) (idle cleartext) rfl system steps⟩

def served : Listener :=
  { idle cleartext with
    engine := some ⟨true, false, false⟩, serving := some .going, socket := some ⟨loopback, true⟩ }

/-- A run on a listener that is running already is refused, and the listener goes on running. A stop from outside that
    finds a run underway can make the run raise a refusal, while it serves or while it starts, though nothing has
    failed. When both shut down and a grace period runs out, the one that comes second can raise a refusal. -/
theorem disturbed_calls_refused :
    (∃ system, Steps true (.ok loopback) (System.initial served) system ∧ system.failed = false ∧
      system.run = .done (.raised alreadyRunning) ∧ system.listener.running = true) ∧
    (∃ system, Steps true (.ok loopback) (System.initial (idle cleartext)) system ∧ system.failed = false ∧
      system.run = .done (.raised (.listener "the server exited unexpectedly"))) ∧
    (∃ system, Steps true (.ok loopback) (System.initial (idle cleartext)) system ∧ system.failed = false ∧
      system.run = .done (.raised missingEngine)) ∧
    (∃ system, Steps true (.ok loopback) (System.initial (idle cleartext)) system ∧ system.failed = false ∧
      system.found = some .leaving ∧ system.stop = .done (.raised System.unforced)) := by
  refine ⟨?_, ?_, ?_, ?_⟩
  · exact ⟨_, .single (.runBegins _ rfl), rfl, rfl, rfl⟩
  · exact ⟨_, .head (.runBegins _ rfl) <| .head (.becomesReady _ rfl) <| .head (.runPolls _ rfl) <|
      .head (.stopBegins _ rfl) <| .head (.leaves _ _ rfl rfl rfl) <|
      .single (.runWakes _ rfl (.inl nofun)), rfl, rfl⟩
  · exact ⟨_, .head (.runBegins _ rfl) <| .head (.stopBegins _ rfl) <| .head (.leaves _ _ rfl rfl rfl) <|
      .head (.halts _ .stop .waiting .finished rfl nofun rfl) <| .single (.runPolls _ rfl), rfl, rfl⟩
  · exact ⟨_, .head (.runBegins _ rfl) <| .head (.becomesReady _ rfl) <| .head (.runPolls _ rfl) <|
      .head (.asks _) <| .head (.runWakes _ rfl (.inr (.inr rfl))) <| .head (.stopBegins _ rfl) <|
      .head (.runsLate _ .stop rfl rfl) <| .head (.leaves _ _ rfl rfl rfl) <|
      .head (.halts _ .run .waiting .finished rfl nofun rfl) <| .single (.forces _ .stop rfl), rfl, rfl, rfl⟩

end Gatehouse.Listener
