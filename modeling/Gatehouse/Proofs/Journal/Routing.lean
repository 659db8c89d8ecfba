import Gatehouse.Journal.Routing
import Gatehouse.Proofs.Journal.Loggers

/- However often the routing is configured, it has one outlet of its own in the end, and a record of a library is told
   exactly once: with its text as it stands, and at the level of its name. Every outlet that takes the level shows it
   once. -/
namespace Gatehouse.Routing

/-- What becomes of a record: it is told once, and shown once by every outlet that takes its level. -/
structure RoutedOnce (routing : Routing) (call : LibraryCall) (level : Level) : Prop where
  named : Loggers.Named call.level level
  worded : level.name = Loggers.libraryName call.level
  told : routing.log call = (Text.Percent.fill call.template call.values).map fun text => [⟨level, text⟩]
  -- Without values the template is the text, whatever it has of braces and percent signs.
  plain : call.values = [] → routing.log call = .ok [⟨level, call.template⟩]
  shown : (routing.log call).map routing.shown = (Text.Percent.fill call.template call.values).map fun text =>
    routing.outlets.map fun outlet => if outlet.threshold.value ≤ call.level then [⟨level, text⟩] else []

-- One call is enough, and none undoes what another one has configured.
theorem configured_all (before : Routing) (untouched : Loggers.Untouched before.loggers) (calls : List Verbosity)
    (called : calls ≠ []) : Loggers.Configured (before.configureAll calls).loggers ∧
      (before.configureAll calls).outlets = [(calls.getLast called).outlet] := by
  induction calls generalizing before with
  | nil => exact absurd rfl called
  | cons first rest ih =>
    have configured : Loggers.Configured (before.configure first).loggers :=
      Loggers.configure_configured before.loggers untouched
    rw [configureAll, List.foldl_cons, ← configureAll]
    cases rest with
    | nil => exact ⟨configured, rfl⟩
    | cons second others =>
      rw [List.getLast_cons (List.cons_ne_nil second others)]
      exact ih (before.configure first) (Loggers.configured_untouched _ configured) _

theorem outlet_shows (outlet : Outlet) (entry : Entry) :
    outlet.shown [entry] = if outlet.threshold.value ≤ entry.level.value then [entry] else [] := by
  rw [Outlet.shown, Journal.above, List.filter_cons, List.filter_nil]
  simp only [decide_eq_true_eq]

theorem configured_routes (routing : Routing) (configured : Loggers.Configured routing.loggers) (call : LibraryCall)
    (positive : 0 < call.level) : RoutedOnce routing call (Loggers.levelOf call.level) := by
  have named := Loggers.level_named call.level
  have told : routing.log call = _ := Loggers.configured_log routing.loggers configured call positive
  refine ⟨named, Loggers.level_name _ _ named positive, told, fun empty => ?_, ?_⟩
  · rw [told, empty]
    rfl
  · rw [told]
    cases Text.Percent.fill call.template call.values with
    | error flaw => rfl
    | ok text => simp only [Except.map, shown, outlet_shows, Loggers.level_value _ _ named]

theorem unconfigured_untold (call : LibraryCall) : initial.log call = .ok [] := by
  have unheard : Loggers.takers initial.loggers call.logger call.level = 0 := by
    rw [initial, Loggers.takers, Loggers.initial_met, ite_self]
  rw [log, Loggers.log, if_pos unheard]

theorem library_records_routed_once (before : Routing) (untouched : Loggers.Untouched before.loggers)
    (calls : List Verbosity) (called : calls ≠ []) (added : List Outlet) (call : LibraryCall)
    (positive : 0 < call.level) :
    (before.configureAll calls).outlets = [(calls.getLast called).outlet] ∧
      ∃! level, RoutedOnce ((before.configureAll calls).add added) call level := by
  obtain ⟨configured, single⟩ := configured_all before untouched calls called
  have routed := configured_routes ((before.configureAll calls).add added) configured call positive
  exact ⟨single, _, routed, fun other again => Loggers.named_once _ _ _ again.named routed.named⟩

-- A record from below two nested loggers of the server, at a level without a name, after two calls.
def hiccup : LibraryCall := ⟨"uvicorn.error.tls", 25, "100% of \x7bit\x7d", []⟩

def plainThenDebug : List Verbosity := [⟨false, false⟩, ⟨true, true⟩]

def wideAndNarrow : List Outlet := [⟨.numbered 1, false⟩, ⟨.error, false⟩]

def watched : Routing := (initial.configureAll plainThenDebug).add wideAndNarrow

theorem hiccup_routed_once : Loggers.Untouched initial.loggers ∧ plainThenDebug ≠ [] ∧ 0 < hiccup.level ∧
    watched.log hiccup = .ok [⟨.numbered 25, "100% of \x7bit\x7d"⟩] ∧
    (watched.log hiccup).map watched.shown =
      .ok [[⟨.numbered 25, "100% of \x7bit\x7d"⟩], [⟨.numbered 25, "100% of \x7bit\x7d"⟩], []] := by
  obtain ⟨single, level, routed, _⟩ := library_records_routed_once initial Loggers.initial_untouched
    plainThenDebug (List.cons_ne_nil _ _) wideAndNarrow hiccup (by decide)
  have numbered : level = .numbered 25 := Loggers.named_once 25 level _ routed.named (.numbered (by decide))
  have outlets : watched.outlets = [⟨.debug, true⟩] ++ wideAndNarrow := congrArg (· ++ wideAndNarrow) single
  subst numbered
  refine ⟨Loggers.initial_untouched, List.cons_ne_nil _ _, by decide, routed.plain rfl, routed.shown.trans ?_⟩
  show Except.ok (watched.outlets.map _) = _
  rw [outlets]
  rfl

end Gatehouse.Routing
