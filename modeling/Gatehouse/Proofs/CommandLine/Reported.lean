import Gatehouse.Proofs.CommandLine.Flags
import Gatehouse.Proofs.Settings.Failures

/- What the program tells of settings that it cannot have. Either command tells it in one entry and ends with an exit
   code, unless the loading ended without a report: then the failure leaves the program as it is. -/
namespace Gatehouse.CommandLine

/-- The failure is told in one entry, and nothing else is done. -/
structure Reported (result : Result) : Prop where
  entry : ∃ report : Report, result.journal = [⟨.error, "Invalid configuration:\n" ++ report.text⟩]
  code : result.exitCode = 1
  idle : result.served = [] ∧ result.output = none
  contained : result.escaped = none

/-- The failure is told by nothing but itself. -/
structure Leaked (cause : SettingsFailure) (result : Result) : Prop where
  entry : result.journal = []
  code : result.exitCode = 1
  idle : result.served = [] ∧ result.output = none
  escaped : result.escaped = some cause

section

variable (entrance : Entrance) (overrides : Members)

def sourcesOf : Sources := ⟨overrides, entrance.environment, entrance.directory, entrance.machine⟩

theorem run_commands (listen : Setup → Except Refusal Unit) (which : Command)
    (entered : request entrance.arguments = .command which overrides) :
    ∃ next, run listen entrance = withSettings entrance overrides next := by
  cases which with
  | serve => exact ⟨serve listen, by rw [run, entered]⟩
  | showConfig => exact ⟨showConfig, by rw [run, entered]⟩

theorem report_entered (next : Settings → Result) (report : Report)
    (failed : Settings.load (sourcesOf entrance overrides) = .error (.invalid report)) :
    Reported (withSettings entrance overrides next) := by
  have came : withSettings entrance overrides next = Result.failed ("Invalid configuration:\n" ++ report.text) := by
    rw [sourcesOf] at failed
    rw [withSettings, failed]
  rw [came]
  exact ⟨⟨report, rfl⟩, rfl, ⟨rfl, rfl⟩, rfl⟩

theorem failure_leaked (next : Settings → Result) (cause : SettingsFailure)
    (failed : Settings.load (sourcesOf entrance overrides) = .error cause)
    (unreported : ∀ report, cause ≠ .invalid report) :
    Leaked cause (withSettings entrance overrides next) := by
  have came : withSettings entrance overrides next = { Result.quiet 1 with escaped := some cause } := by
    rw [sourcesOf] at failed
    rw [withSettings, failed]
    cases cause with
    | invalid report => exact absurd rfl (unreported report)
    | unreadable | broken => rfl
  rw [came]
  exact ⟨rfl, rfl, ⟨rfl, rfl⟩, rfl⟩

end

theorem reported_not_leaked (cause : SettingsFailure) (result : Result) (reported : Reported result) :
    ¬ Leaked cause result := by
  intro leaked
  cases reported.contained.symm.trans leaked.escaped

theorem failures_reported (listen : Setup → Except Refusal Unit) (entrance : Entrance) (which : Command)
    (overrides : Members) (cause : SettingsFailure) (entered : request entrance.arguments = .command which overrides)
    (failed : Settings.load (sourcesOf entrance overrides) = .error cause) :
    (Reported (run listen entrance) ↔ ¬ Settings.Unreported (sourcesOf entrance overrides)) ∧
      (Leaked cause (run listen entrance) ↔ Settings.Unreported (sourcesOf entrance overrides)) := by
  obtain ⟨given, _, made⟩ := request_typed _ _ _ entered
  have settled := (flags_override given which overrides made).settled
  have single : (keysOf (sourcesOf entrance overrides).given).Nodup := (Json.collapsed_object _ settled).1
  obtain ⟨next, ran⟩ := run_commands entrance overrides listen which entered
  rw [ran, ← Settings.load_escapes _ single]
  by_cases unreported : ∀ report, cause ≠ .invalid report
  · have escapes : Settings.Escapes (Settings.load (sourcesOf entrance overrides)) := ⟨cause, failed, unreported⟩
    have leaked := failure_leaked entrance overrides next cause failed unreported
    have silent : ¬ Reported (withSettings entrance overrides next) :=
      fun reported => reported_not_leaked cause _ reported leaked
    exact ⟨iff_of_false silent (not_not_intro escapes), iff_of_true leaked escapes⟩
  · obtain ⟨report, same⟩ := not_forall_not.mp unreported
    subst same
    have reported := report_entered entrance overrides next report failed
    have contained : ¬ Settings.Escapes (Settings.load (sourcesOf entrance overrides)) := by
      rintro ⟨found, came, other⟩
      exact other report (Except.error.inj (came.symm.trans failed))
    exact ⟨iff_of_true reported contained,
      iff_of_false (fun leaked => reported_not_leaked _ _ reported leaked) contained⟩

-- A port out of range, by its flag.
def portless (which : Command) : Entrance := ⟨[which.name, "--port", "0"], [], ⟨[], []⟩, .bare⟩

theorem portless_entered (which : Command) :
    request (portless which).arguments = .command which [("port", .int 0)] := by
  cases which <;> rfl

theorem portless_unloaded (which : Command) :
    ∃ cause, Settings.load (sourcesOf (portless which) [("port", .int 0)]) = .error cause := by
  have unloaded : (Settings.load ⟨[("port", .int 0)], [], ⟨[], []⟩, .bare⟩).toOption.isNone = true := by decide +kernel
  rw [sourcesOf, portless]
  cases loaded : Settings.load ⟨[("port", .int 0)], [], ⟨[], []⟩, .bare⟩ with
  | ok settings =>
    rw [loaded] at unloaded
    cases unloaded
  | error cause => exact ⟨cause, rfl⟩

theorem portless_reportable (which : Command) :
    ¬ Settings.Unreported (sourcesOf (portless which) [("port", .int 0)]) := by
  rintro (⟨cause, unread⟩ | ⟨field, member, text, found, _⟩ | ⟨value, cause, said, _⟩)
  · exact Sources.unread_bare _ _ cause unread
  · simp only [List.mem_cons, List.not_mem_nil, or_false] at member
    rcases member with rfl | rfl <;> cases found
  · cases said

theorem bad_port_reported : Reported (run (fun _ => .ok ()) (portless .serve)) ∧
    Reported (run (fun _ => .ok ()) (portless .showConfig)) := by
  have told (which : Command) : Reported (run (fun _ => .ok ()) (portless which)) := by
    obtain ⟨cause, failed⟩ := portless_unloaded which
    exact (failures_reported _ _ which _ cause (portless_entered which) failed).1.mpr (portless_reportable which)
  exact ⟨told .serve, told .showConfig⟩

-- The required annotations are not members.
def unlisted : Entrance := ⟨["show-config"], [("ADMISSION_REQUIRED_ANNOTATIONS", "[]")], ⟨[], []⟩, .bare⟩

theorem unlisted_leaked :
    request unlisted.arguments = .command .showConfig [] ∧
    (Settings.load (sourcesOf unlisted [])).toOption.isNone = true ∧
    (run (fun _ => .ok ()) unlisted).journal = [] ∧ (run (fun _ => .ok ()) unlisted).escaped.isSome = true := by
  exact ⟨rfl, by decide +kernel, by decide +kernel, by decide +kernel⟩

end Gatehouse.CommandLine
