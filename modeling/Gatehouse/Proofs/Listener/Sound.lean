import Gatehouse.Proofs.Listener.Held

/- What holds at every moment of a run and a stop from outside. Who has asked the serving to end, and whether a grace
   period has run out, can be told from how far the two calls are. -/
namespace Gatehouse.Listener

def System.Quiet (system : System) : Prop := system.ended = none ∧ system.listener.Unasked

def System.Untouched (system : System) : Prop :=
  system.failed = true ∨ system.found = some .underway ∨ system.Quiet

-- What a run raises that a stop from outside has disturbed while it started or served.
def Disturbed (outcome : Outcome) : Prop :=
  outcome = .raised (endError .finished) ∨ outcome = .raised missingEngine

inductive RunSound (system : System) : Call → Prop where
  | starting (untouched : system.Untouched) : RunSound system .starting
  | serving (untouched : system.Untouched) : RunSound system .serving
  | stopping (halt : Halt) (leaving : system.listener.Leaving)
    (kept : system.listener.engine = none → system.found ≠ none) (late : halt = .late → system.overtime = true) :
    RunSound system (.stopping halt)
  | done (outcome : Outcome) (released : system.listener.release = system.listener)
    (returned : outcome = .returned ∨ system.failed = true ∨ (system.found = some .underway ∧ Disturbed outcome) ∨
      (outcome = .raised System.unforced ∧ system.overtime = true ∧ system.found ≠ none)) :
    RunSound system (.done outcome)

inductive StopSound (system : System) : Call → Prop where
  | fresh (unfound : system.found = none) : StopSound system .fresh
  | stopping (halt : Halt) (leaving : system.listener.Leaving) (found : system.found ≠ none)
    (late : halt = .late → system.overtime = true) : StopSound system (.stopping halt)
  | done (outcome : Outcome)
    (returned : outcome = .returned ∨ system.failed = true ∨ (system.overtime = true ∧ system.found ≠ none)) :
    StopSound system (.done outcome)

/-- What holds from the moment at which the listener has been bound, without what a stop from outside knows. -/
structure Bound (system : System) : Prop where
  held : Held system.listener system.ended
  finished : system.failed = true ∨ ∀ ending, system.ended = some ending → ending = .finished
  run : RunSound system system.run

structure Begun (system : System) : Prop extends Bound system where
  stop : StopSound system system.stop

/-- What holds before, and for ever when the listener cannot be bound. -/
structure Resting (system : System) : Prop where
  down : system.listener.running = false
  unended : system.ended = none
  unfound : system.found = none
  run : system.run = .fresh ∨ (system.failed = true ∧ ∃ refusal, system.run = .done (.raised refusal))
  stop : system.stop = .fresh ∨ system.stop = .done .returned

inductive Sound (system : System) : Prop where
  | resting (resting : Resting system)
  | begun (begun : Begun system)

/- What can be told from how far a call is -/

section

variable (system : System)

theorem early_untouched (call : Call) (sound : RunSound system call) (early : call = .starting ∨ call = .serving) :
    system.Untouched := by
  cases sound with
  | starting untouched | serving untouched => exact untouched
  | stopping halt | done outcome => exact nomatch early

theorem run_stopped (halt : Halt) (sound : RunSound system (.stopping halt)) :
    system.listener.Leaving ∧ (system.listener.engine = none → system.found ≠ none) ∧
      (halt = .late → system.overtime = true) := by
  cases sound with
  | stopping _ leaving kept late => exact ⟨leaving, kept, late⟩

theorem stop_stopped (halt : Halt) (sound : StopSound system (.stopping halt)) :
    system.listener.Leaving ∧ system.found ≠ none ∧ (halt = .late → system.overtime = true) := by
  cases sound with
  | stopping _ leaving found late => exact ⟨leaving, found, late⟩

theorem run_done (outcome : Outcome) (sound : RunSound system (.done outcome)) :
    system.listener.release = system.listener ∧
      (outcome = .returned ∨ system.failed = true ∨ (system.found = some .underway ∧ Disturbed outcome) ∨
        (outcome = .raised System.unforced ∧ system.overtime = true ∧ system.found ≠ none)) := by
  cases sound with
  | done _ released returned => exact ⟨released, returned⟩

theorem stop_done (outcome : Outcome) (sound : StopSound system (.done outcome)) :
    outcome = .returned ∨ system.failed = true ∨ (system.overtime = true ∧ system.found ≠ none) := by
  cases sound with
  | done _ returned => exact returned

end

/- The call that does not move -/

-- What a step leaves true, whoever takes it.
structure Keeps (before after : System) : Prop where
  failed : before.failed = true → after.failed = true
  overtime : before.overtime = true → after.overtime = true
  found : ∀ found, before.found = some found → after.found = some found
  leaving : before.listener.Leaving → after.listener.Leaving
  released : before.listener.release = before.listener → after.listener.release = after.listener

theorem Keeps.refound (before after : System) (keeps : Keeps before after) (found : before.found ≠ none) :
    after.found ≠ none := by
  obtain ⟨stretch, held⟩ := Option.ne_none_iff_exists'.mp found
  rw [keeps.found stretch held]
  exact Option.some_ne_none stretch

theorem run_kept (before after : System) (call : Call) (sound : RunSound before call) (keeps : Keeps before after)
    (quiet : call = .starting ∨ call = .serving → before.Quiet → after.Untouched)
    (gone : ∀ halt, call = .stopping halt → after.listener.engine = none →
      before.listener.engine = none ∨ after.found ≠ none) : RunSound after call := by
  have untouched (early : call = .starting ∨ call = .serving) (held : before.Untouched) : after.Untouched := by
    rcases held with failed | found | held
    · exact .inl (keeps.failed failed)
    · exact .inr (.inl (keeps.found _ found))
    · exact quiet early held
  cases sound with
  | starting held => exact .starting (untouched (.inl rfl) held)
  | serving held => exact .serving (untouched (.inr rfl) held)
  | stopping halt leaving kept late =>
    refine .stopping halt (keeps.leaving leaving) (fun missing => ?_) fun same => keeps.overtime (late same)
    rcases gone halt rfl missing with missing | found
    · exact keeps.refound _ _ (kept missing)
    · exact found
  | done outcome released returned =>
    refine .done outcome (keeps.released released) ?_
    rcases returned with same | failed | ⟨found, disturbed⟩ | ⟨unforced, overtime, found⟩
    · exact .inl same
    · exact .inr (.inl (keeps.failed failed))
    · exact .inr (.inr (.inl ⟨keeps.found _ found, disturbed⟩))
    · exact .inr (.inr (.inr ⟨unforced, keeps.overtime overtime, keeps.refound _ _ found⟩))

theorem stop_kept (before after : System) (call : Call) (sound : StopSound before call) (keeps : Keeps before after)
    (same : after.found = before.found) : StopSound after call := by
  cases sound with
  | fresh unfound => exact .fresh (same.trans unfound)
  | stopping halt leaving found late =>
    exact .stopping halt (keeps.leaving leaving) (keeps.refound _ _ found) fun same => keeps.overtime (late same)
  | done outcome returned =>
    refine .done outcome ?_
    rcases returned with same | failed | ⟨overtime, found⟩
    · exact .inl same
    · exact .inr (.inl (keeps.failed failed))
    · exact .inr (.inr ⟨keeps.overtime overtime, keeps.refound _ _ found⟩)

/- How a call ends -/

section

variable (mainThread : Bool) (system : System) (told : Journal) (outcome : Outcome)

theorem run_closed (begun : Begun system) (ended : system.ended ≠ none)
    (returned : outcome = .returned ∨ system.failed = true ∨ (system.found = some .underway ∧ Disturbed outcome) ∨
      (outcome = .raised System.unforced ∧ system.overtime = true ∧ system.found ≠ none)) :
    Begun ((system.tell told system.listener.release).close mainThread .run outcome) := by
  obtain ⟨ending, held⟩ := Option.ne_none_iff_exists'.mp ended
  have released : (system.listener.release.leaveSignals mainThread).release =
      system.listener.release.leaveSignals mainThread := leaveSignals_release mainThread _
  have gone := released_engine _ released
  refine ⟨⟨?_, begun.finished, .done outcome released returned⟩, ?_⟩
  · show Held _ system.ended
    rw [held]
    exact .released ending released
  · exact stop_kept system _ _ begun.stop
      ⟨id, id, fun _ => id, fun _ => leaving_of_none _ gone, fun _ => released⟩ rfl

theorem stop_closed (bound : Bound system) (ended : system.ended ≠ none)
    (gone : ∀ halt, system.run = .stopping halt → system.listener.engine = none ∨ system.found ≠ none)
    (returned : outcome = .returned ∨ system.failed = true ∨ (system.overtime = true ∧ system.found ≠ none)) :
    Begun ((system.tell told system.listener.release).close mainThread .stop outcome) := by
  obtain ⟨ending, held⟩ := Option.ne_none_iff_exists'.mp ended
  refine ⟨⟨?_, bound.finished, ?_⟩, .done outcome returned⟩
  · show Held _ system.ended
    rw [held]
    exact .released ending rfl
  · refine run_kept system _ _ bound.run
      ⟨id, id, fun _ => id, fun _ => leaving_of_none _ rfl, fun _ => rfl⟩ ?_ ?_
    · intro _ quiet
      exact absurd quiet.1 ended
    · intro halt stopping _
      exact gone halt stopping

end

/- How a call waits for the serving, which is asked to end or forced to -/

section

variable (system : System) (told : Journal) (halt : Halt) (change : Engine → Engine)
  (leaves : ∀ engine, engine.leaving = true → (change engine).leaving = true)
  (leaving : Leaving { system.listener with engine := system.listener.engine.map change }) (early : halt ≠ .late)

include leaves leaving early

theorem run_stopping (begun : Begun system) (kept : system.listener.engine = none → system.found ≠ none) :
    Begun ((system.tell told { system.listener with engine := system.listener.engine.map change }).set .run
      (.stopping halt)) :=
  ⟨⟨changed_held _ change _ begun.held, begun.finished,
    .stopping halt leaving (fun gone => kept (Option.map_eq_none_iff.mp gone)) fun same => absurd same early⟩,
    stop_kept system _ _ begun.stop
      ⟨id, id, fun _ => id, changed_leaving _ change leaves, changed_released _ change⟩ rfl⟩

theorem stop_stopping (bound : Bound system) (found : system.found ≠ none)
    (underway : system.run = .starting ∨ system.run = .serving → system.Quiet → system.found = some .underway) :
    Begun ((system.tell told { system.listener with engine := system.listener.engine.map change }).set .stop
      (.stopping halt)) := by
  refine ⟨⟨changed_held _ change _ bound.held, bound.finished, ?_⟩,
    .stopping halt leaving found fun same => absurd same early⟩
  refine run_kept system _ _ bound.run
    ⟨id, id, fun _ => id, changed_leaving _ change leaves, changed_released _ change⟩ ?_ ?_
  · intro stretch quiet
    exact .inr (.inl (underway stretch quiet))
  · intro _ _ gone
    exact .inl (Option.map_eq_none_iff.mp gone)

end

theorem quiet_unleaving (system : System) (held : Held system.listener system.ended) (quiet : system.Quiet) :
    ¬ system.listener.Leaving := by
  obtain ⟨going, unasked⟩ := quiet
  rw [going] at held
  intro leaving
  cases held with
  | going engine built serving => simpa [unasked engine built] using leaving engine built

/- Each section keeps what holds -/

section

variable (mainThread : Bool) (system : System)

theorem meets_disturbed (begun : Begun system) (refusal : Refusal) (meets : Meets system refusal) :
    system.failed = true ∨ Disturbed (.raised refusal) := by
  cases meets with
  | ending ending ended =>
    rcases begun.finished with failed | finished
    · exact .inl failed
    · rw [finished ending ended]
      exact .inr (.inl rfl)
  | missing => exact .inr (.inr rfl)

theorem refused_begun (begun : Begun system) (untouched : system.Untouched) (ended : system.ended ≠ none)
    (told : Journal) (refusal : Refusal) (meets : Meets system refusal) :
    Begun ((system.tell told system.listener.release).close mainThread .run (.raised refusal)) := by
  refine run_closed mainThread system told _ begun ended (.inr ?_)
  rcases untouched with failed | found | quiet
  · exact .inl failed
  · rcases meets_disturbed system begun refusal meets with failed | disturbed
    · exact .inl failed
    · exact .inr (.inl ⟨found, disturbed⟩)
  · exact absurd quiet.1 ended

-- What is told or asked for changes nothing of this, and neither does a run that goes on.
theorem unmoved_begun (begun : Begun system) (call : Call) (run : RunSound system call) (signals : List Signal)
    (asked : Bool) (journal : Journal) :
    Begun { system with run := call, signals := signals, asked := asked, journal := journal } :=
  ⟨⟨begun.held, begun.finished,
    run_kept system _ _ run ⟨id, id, fun _ => id, id, id⟩ (fun _ quiet => .inr (.inr quiet)) fun _ _ => .inl⟩,
    stop_kept system _ _ begun.stop ⟨id, id, fun _ => id, id, id⟩ rfl⟩

theorem pollRun_begun (begun : Begun system) (starting : system.run = .starting) :
    Begun (system.pollRun mainThread) := by
  have untouched := early_untouched system system.run begun.run (.inl starting)
  rcases pollRun_cases mainThread system begun.held with ⟨engine, told, _, _, polled⟩ | ⟨ended, refusal, meets, polled⟩
  · rw [polled]
    cases engine.ready with
    | false => exact unmoved_begun system begun system.run begun.run system.signals system.asked _
    | true => exact unmoved_begun system begun .serving (.serving untouched) system.signals system.asked _
  · rw [polled]
    exact refused_begun mainThread system begun untouched ended [] refusal meets

theorem haltRun_begun (begun : Begun system) : Begun (system.beginHalt mainThread .run) := by
  rcases beginHalt_cases mainThread system .run begun.held with ⟨going, told, halted⟩ | ⟨ended, halted⟩
  · rw [halted]
    exact run_stopping system told .waiting Engine.ask (fun _ _ => rfl) (ask_leaving _) (by decide) begun
      fun gone => absurd going (held_engine _ _ begun.held gone)
  · rw [halted]
    exact run_closed mainThread system [] .returned begun ended (.inl rfl)

theorem wakeRun_begun (begun : Begun system) (serving : system.run = .serving) :
    Begun (system.wakeRun mainThread) := by
  rcases wakeRun_cases mainThread system begun.held with ⟨told, woken⟩ | ⟨ended, told, refusal, meets, woken⟩
  · rw [woken]
    exact haltRun_begun mainThread _ (unmoved_begun system begun system.run begun.run system.signals system.asked _)
  · rw [woken]
    exact refused_begun mainThread system begun (early_untouched system system.run begun.run (.inr serving)) ended
      told refusal meets

theorem found_early (call : Call) (early : call = .starting ∨ call = .serving) : call.found = some .underway := by
  rcases early with rfl | rfl <;> rfl

theorem found_stopping (call : Call) (halt : Halt) (stopping : call = .stopping halt) : call.found ≠ none := by
  subst stopping
  exact Option.some_ne_none _

-- While the serving goes on, a run that has begun is not over.
theorem found_going (call : Call) (run : RunSound system call) (held : Held system.listener system.ended)
    (going : system.ended = none) : call.found ≠ none := by
  cases run with
  | starting | serving | stopping => exact Option.some_ne_none _
  | done outcome released => exact absurd going (held_engine _ _ held (released_engine _ released))

theorem found_bound (bound : Bound system) (unfound : system.found = none) :
    Bound { system with found := system.run.found } :=
  ⟨bound.held, bound.finished,
    run_kept system _ _ bound.run ⟨id, id, fun found held => absurd held (by simp [unfound]), id, id⟩
      (fun _ quiet => .inr (.inr quiet)) fun _ _ => .inl⟩

theorem beginStop_begun (begun : Begun system) (fresh : system.stop = .fresh) :
    Begun (system.beginStop mainThread) := by
  have unfound : system.found = none := by
    have stop := begun.stop
    rw [fresh] at stop
    cases stop with
    | fresh unfound => exact unfound
  have bound := found_bound system begun.toBound unfound
  rcases beginHalt_cases mainThread { system with found := system.run.found } .stop bound.held with
    ⟨going, told, halted⟩ | ⟨ended, halted⟩
  · rw [System.beginStop, halted]
    refine stop_stopping _ told .waiting Engine.ask (fun _ _ => rfl) (ask_leaving _) (by decide) bound ?_ ?_
    · exact found_going system system.run begun.run begun.held going
    · exact fun early _ => found_early system.run early
  · rw [System.beginStop, halted]
    refine stop_closed mainThread _ [] .returned bound ended ?_ (.inl rfl)
    exact fun halt stopping => .inr (found_stopping system.run halt stopping)

theorem forceHalt_begun (begun : Begun system) (caller : Caller) (late : system.call caller = .stopping .late) :
    Begun (system.forceHalt mainThread caller) := by
  have leaves (engine : Engine) (leaving : engine.leaving = true) : engine.force.leaving = true := leaving
  cases caller with
  | run =>
    obtain ⟨leaving, kept, overtime⟩ := run_stopped system .late (late ▸ begun.run)
    rcases forceHalt_cases mainThread system .run with ⟨told, forced⟩ | ⟨gone, told, forced⟩
    · rw [forced]
      exact run_stopping system told .forced Engine.force leaves (changed_leaving _ _ leaves leaving) (by decide) begun
        kept
    · rw [forced]
      exact run_closed mainThread system told _ begun (held_engine _ _ begun.held gone)
        (.inr (.inr (.inr ⟨rfl, overtime rfl, kept gone⟩)))
  | stop =>
    obtain ⟨leaving, found, overtime⟩ := stop_stopped system .late (late ▸ begun.stop)
    rcases forceHalt_cases mainThread system .stop with ⟨told, forced⟩ | ⟨gone, told, forced⟩
    · rw [forced]
      exact stop_stopping system told .forced Engine.force leaves (changed_leaving _ _ leaves leaving) (by decide)
        begun.toBound found fun _ quiet => absurd leaving (quiet_unleaving system begun.held quiet)
    · rw [forced]
      exact stop_closed mainThread system told _ begun.toBound (held_engine _ _ begun.held gone) (fun _ _ => .inl gone)
        (.inr (.inr ⟨overtime rfl, found⟩))

theorem finishHalt_begun (begun : Begun system) (caller : Caller) (halt : Halt) (ending : Ending)
    (stopping : system.call caller = .stopping halt) (ended : system.ended = some ending) :
    Begun (system.finishHalt mainThread caller halt ending) := by
  obtain ⟨told, outcome, finished, returns⟩ := finishHalt_released mainThread system caller halt ending
  have done : system.ended ≠ none := by simp [ended]
  have returned : outcome = .returned ∨ system.failed = true := by
    rcases begun.finished with failed | asked
    · exact .inr failed
    · exact .inl (returns (asked ending ended))
  rw [finished]
  cases caller with
  | run => exact run_closed mainThread system told outcome begun done (returned.imp_right .inl)
  | stop =>
    obtain ⟨_, found, _⟩ := stop_stopped system halt (stopping ▸ begun.stop)
    exact stop_closed mainThread system told outcome begun.toBound done (fun _ _ => .inr found)
      (returned.imp_right .inl)

theorem runsLate_begun (begun : Begun system) (caller : Caller) (waiting : system.call caller = .stopping .waiting) :
    Begun ({ system with overtime := true }.set caller (.stopping .late)) := by
  cases caller with
  | run =>
    obtain ⟨leaving, kept, _⟩ := run_stopped system .waiting (waiting ▸ begun.run)
    exact ⟨⟨begun.held, begun.finished, .stopping .late leaving kept fun _ => rfl⟩,
      stop_kept system _ _ begun.stop ⟨id, fun _ => rfl, fun _ => id, id, id⟩ rfl⟩
  | stop =>
    obtain ⟨leaving, found, _⟩ := stop_stopped system .waiting (waiting ▸ begun.stop)
    exact ⟨⟨begun.held, begun.finished,
      run_kept system _ _ begun.run ⟨id, fun _ => rfl, fun _ => id, id, id⟩ (fun _ quiet => .inr (.inr quiet))
        fun _ _ => .inl⟩,
      .stopping .late leaving found fun _ => rfl⟩

theorem becomeReady_begun (begun : Begun system) :
    Begun { system with listener := system.listener.becomeReady } := by
  have leaves : ∀ engine : Engine, engine.leaving = true → { engine with ready := true }.leaving = true :=
    fun _ leaving => leaving
  have keeps : Keeps system { system with listener := system.listener.becomeReady } :=
    ⟨id, id, fun _ => id, changed_leaving _ _ leaves, changed_released _ _⟩
  refine ⟨⟨changed_held _ _ _ begun.held, begun.finished, run_kept system _ _ begun.run keeps ?_ ?_⟩,
    stop_kept system _ _ begun.stop keeps rfl⟩
  · intro _ quiet
    refine .inr (.inr ⟨quiet.1, ?_⟩)
    intro ready built
    obtain ⟨engine, held, rfl⟩ := Option.map_eq_some_iff.mp built
    exact quiet.2 engine held
  · exact fun _ _ gone => .inl (Option.map_eq_none_iff.mp gone)

theorem endServing_keeps (ending : Ending) (failed : Bool) (worse : system.failed = true → failed = true) :
    Keeps system { system.endServing ending with failed := failed } := by
  refine ⟨worse, id, fun _ => id, fun leaving engine built => ?_, endServing_released _ ending⟩
  exact leaving engine (endServing_engine system.listener ending ▸ built)

theorem endServing_begun (begun : Begun system) (ending : Ending) (failed : Bool)
    (going : system.listener.running = true) (worse : system.failed = true → failed = true)
    (unasked : failed = true ∨ ¬ system.Quiet) (finished : failed = true ∨ ending = .finished) :
    Begun { system.endServing ending with failed := failed } := by
  have keeps := endServing_keeps system ending failed worse
  refine ⟨⟨endServing_held _ _ ending begun.held going, ?_, run_kept system _ _ begun.run keeps ?_ ?_⟩,
    stop_kept system _ _ begun.stop keeps rfl⟩
  · refine finished.imp_right fun same other held => ?_
    rw [← same]
    exact (Option.some.inj held).symm
  · intro _ quiet
    exact .inl (unasked.resolve_right fun noisy => noisy quiet)
  · intro _ _ gone
    exact .inl ((endServing_engine system.listener ending).symm.trans gone)

end

/- Before the listener is bound -/

section

variable (mainThread : Bool) (system : System)

theorem resting_call (resting : Resting system) (caller : Caller) (halt : Halt) :
    system.call caller ≠ .stopping halt := by
  cases caller with
  | run =>
    rcases resting.run with fresh | ⟨_, refusal, done⟩
    · simp [System.call, fresh]
    · simp [System.call, done]
  | stop =>
    rcases resting.stop with fresh | done
    · simp [System.call, fresh]
    · simp [System.call, done]

theorem resting_run (resting : Resting system) : system.run.found = none := by
  rcases resting.run with fresh | ⟨_, refusal, done⟩
  · rw [fresh]
    rfl
  · rw [done]
    rfl

theorem beginStop_resting (resting : Resting system) : Resting (system.beginStop mainThread) := by
  obtain ⟨left, begun, down⟩ := stopBegin_down system.listener resting.down
  simp only [System.beginStop, System.beginHalt, begun]
  exact ⟨down, resting.unended, resting_run system resting, resting.run, .inr rfl⟩

theorem beginRun_sound (bound : Except String Address) (resting : Resting system) :
    Sound (system.beginRun mainThread bound) := by
  have down : (system.listener.takeSignals mainThread).2.running = false :=
    (takeSignals_running mainThread system.listener).trans resting.down
  cases bound with
  | error reason =>
    refine .resting ?_
    simp only [System.beginRun, startBegin, down, Bool.false_eq_true, if_false]
    exact ⟨(leaveSignals_running mainThread _).trans down, resting.unended, resting.unfound,
      .inr ⟨Bool.or_true _, _, rfl⟩, resting.stop⟩
  | ok address =>
    refine .begun ?_
    simp only [System.beginRun, startBegin, down, Bool.false_eq_true, if_false]
    refine ⟨⟨?_, .inr fun ending ended => ?_, .starting (.inr (.inr ⟨resting.unended, ?_⟩))⟩, ?_⟩
    · show Held _ system.ended
      rw [resting.unended]
      exact .going _ rfl rfl
    · exact absurd (resting.unended.symm.trans ended) (Option.some_ne_none ending).symm
    · intro engine built
      rw [← Option.some.inj built]
    · show StopSound _ system.stop
      rcases resting.stop with fresh | done
      · rw [fresh]
        exact .fresh resting.unfound
      · rw [done]
        exact .done .returned (.inl rfl)

end

/- Every step -/

section

variable (mainThread : Bool) (bound : Except String Address) (before after : System)

theorem step_resting (resting : Resting before) (step : Step mainThread bound before after) : Sound after := by
  have asleep (call : Call) (early : call = .starting ∨ call = .serving) : before.run ≠ call := by
    intro same
    have found := found_early call early
    rw [← same, resting_run before resting] at found
    exact nomatch found
  cases step with
  | runBegins fresh => exact beginRun_sound mainThread before bound resting
  | runPolls starting => exact absurd starting (asleep _ (.inl rfl))
  | runWakes serving woken => exact absurd serving (asleep _ (.inr rfl))
  | stopBegins fresh => exact .resting (beginStop_resting mainThread before resting)
  | runsLate caller waiting going => exact absurd waiting (resting_call before resting caller _)
  | forces caller late => exact absurd late (resting_call before resting caller _)
  | halts caller halt ending stopping awaits ended => exact absurd stopping (resting_call before resting caller _)
  | becomesReady going => simp [resting.down] at going
  | leaves engine going held asked => simp [resting.down] at going
  | fails ending going => simp [resting.down] at going
  | signals signal taken => exact .resting ⟨resting.down, resting.unended, resting.unfound, resting.run, resting.stop⟩
  | asks => exact .resting ⟨resting.down, resting.unended, resting.unfound, resting.run, resting.stop⟩

theorem step_begun (begun : Begun before) (step : Step mainThread bound before after) : Begun after := by
  cases step with
  | runBegins fresh =>
    have run := begun.run
    rw [fresh] at run
    cases run
  | runPolls starting => exact pollRun_begun mainThread before begun starting
  | runWakes serving woken => exact wakeRun_begun mainThread before begun serving
  | stopBegins fresh => exact beginStop_begun mainThread before begun fresh
  | runsLate caller waiting going => exact runsLate_begun before begun caller waiting
  | forces caller late => exact forceHalt_begun mainThread before begun caller late
  | halts caller halt ending stopping awaits ended =>
    exact finishHalt_begun mainThread before begun caller halt ending stopping ended
  | becomesReady going => exact becomeReady_begun before begun
  | leaves engine going held asked =>
    refine endServing_begun before begun .finished before.failed going id (.inr fun quiet => ?_) (.inr rfl)
    simp [quiet.2 engine held] at asked
  | fails ending going => exact endServing_begun before begun ending true going (fun _ => rfl) (.inl rfl) (.inl rfl)
  | signals signal taken => exact unmoved_begun before begun before.run begun.run _ before.asked before.journal
  | asks => exact unmoved_begun before begun before.run begun.run before.signals true before.journal

theorem step_sound (sound : Sound before) (step : Step mainThread bound before after) : Sound after := by
  cases sound with
  | resting resting => exact step_resting mainThread bound before after resting step
  | begun begun => exact .begun (step_begun mainThread bound before after begun step)

theorem steps_sound (sound : Sound before) (steps : Steps mainThread bound before after) : Sound after := by
  induction steps with
  | refl => exact sound
  | tail _ step ih => exact step_sound mainThread bound _ _ ih step

end

theorem initial_sound (listener : Listener) (down : listener.running = false) : Sound (System.initial listener) :=
  .resting ⟨down, rfl, rfl, .inl rfl, .inl rfl⟩

end Gatehouse.Listener
