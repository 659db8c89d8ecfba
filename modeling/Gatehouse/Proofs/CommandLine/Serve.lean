import Gatehouse.Proofs.CommandLine.Flags
import Gatehouse.Proofs.Settings.Loaded

/- The command that serves. It listens in the clear only where that was asked for, and encrypts only with two files
   that were named and were there; otherwise it does not listen at all. -/
namespace Gatehouse.CommandLine

def httpOnlyFlag : Flag := ⟨"--http-only", "http_only", .switch⟩

def certificateFlag : Flag := ⟨"--cert-path", "tls_cert_path", .path⟩

def keyFlag : Flag := ⟨"--key-path", "tls_key_path", .path⟩

-- What is said of the setting of a flag, by the flag itself, the environment or the file of variables.
def said (given : Given) (sources : Sources) (flag : Flag) : Option Json :=
  (settingOf? flag (valuesOf given flag)).join.or ((sources.textOf? flag.setting).map .string)

def plainAsked (given : Given) (sources : Sources) : Option Bool := switched? (said given sources httpOnlyFlag)

def certificateNamed (given : Given) (sources : Sources) : Option Path :=
  Path.named? (said given sources certificateFlag)

def keyNamed (given : Given) (sources : Sources) : Option Path := Path.named? (said given sources keyFlag)

/-- How a service listens that was entered with these flags. -/
structure Guarded (listen : Setup → Except Refusal Unit) (given : Given) (sources : Sources) (result : Result) : Prop
    where
  plain : ∀ setup ∈ result.served, setup.tls = none → plainAsked given sources = some true
  encrypted : ∀ setup ∈ result.served, ∀ files, setup.tls = some files →
    plainAsked given sources = some false ∧ ∃ certificate key,
      certificateNamed given sources = some certificate ∧ sources.directory.lookup certificate = .present ∧
      keyNamed given sources = some key ∧ sources.directory.lookup key = .present ∧
      files = ⟨certificate.text, key.text, none⟩
  invalid : ∀ cause, Settings.load sources = .error cause → result.served = []
  unpaired : (certificateNamed given sources).isSome ≠ (keyNamed given sources).isSome → result.served = []
  unprotected : plainAsked given sources ≠ some true → certificateNamed given sources = none →
    keyNamed given sources = none → result.served = []
  serves : ∀ settings, Settings.load sources = .ok settings →
    plainAsked given sources = some true ∨ (certificateNamed given sources).isSome = true →
      ∃ setup, result.served = [setup]
  once : result.served.length ≤ 1
  refused : result.served = [] → result.exitCode = 1
  ended : result.exitCode = 0 ↔ ∃ setup, result.served = [setup] ∧ listen setup = .ok ()

section

variable (listen : Setup → Except Refusal Unit) (settings : Settings)

theorem serve_refuses (unasked : settings.server.httpOnly = false) (unpaired : settings.server.keyPair = none) :
    (serve listen settings).served = [] ∧ (serve listen settings).exitCode = 1 := by
  simp only [serve, ServerSettings.tlsEnabled, unasked, unpaired]
  exact ⟨rfl, rfl⟩

theorem serve_listens (secured : settings.server.httpOnly = true ∨ settings.server.keyPair.isSome = true) :
    (serve listen settings).served = [Service.setupOf settings.server] ∧
      ((serve listen settings).exitCode = 0 ↔ listen (Service.setupOf settings.server) = .ok ()) := by
  have guarded : (!settings.server.httpOnly && !settings.server.tlsEnabled) = false := by
    rcases secured with asked | paired
    · simp [asked]
    · cases asked : settings.server.httpOnly <;> simp [ServerSettings.tlsEnabled, asked, paired]
  simp only [serve, guarded, Bool.false_eq_true, if_false, Service.runWith]
  cases listen (Service.setupOf settings.server) <;> simp

end

/- What was said becomes the settings -/

section

variable (given : Given) (sources : Sources) (made : overrides? given Command.serve.flags = some sources.given)

include made

theorem said_members (members : Members) (read : sources.members Settings.fieldNames = .ok members) (flag : Flag)
    (member : flag ∈ Command.serve.flags) (field : flag.setting ∈ Settings.fieldNames)
    (plain : Sources.documentFields.contains flag.setting = false) :
    lastOf members flag.setting = said given sources flag := by
  have distinct : (Command.serve.flags.map Flag.setting).Nodup := by decide
  obtain ⟨keys, found⟩ := overrides_entries given _ distinct _ made
  rw [Sources.plain_said sources _ Settings.field_names_distinct (keys.nodup distinct) members read _ field plain,
    Sources.said, said, found flag member]
  rfl

/-- The settings in question, as they were loaded. -/
structure Settled (settings : Settings) : Prop where
  plain : plainAsked given sources = some settings.server.httpOnly
  certificate : certificateNamed given sources = settings.server.keyPair.map KeyPair.certificate
  key : keyNamed given sources = settings.server.keyPair.map KeyPair.key
  present : ∀ pair, settings.server.keyPair = some pair →
    sources.directory.lookup pair.certificate = .present ∧ sources.directory.lookup pair.key = .present

theorem loaded_settled (settings : Settings) (loaded : Settings.load sources = .ok settings) :
    Settled given sources settings := by
  obtain ⟨members, read, found⟩ := Settings.load_ok sources settings loaded
  have entry := said_members given sources made members read
  have httpOnly : lastOf members "http_only" = said given sources httpOnlyFlag :=
    entry httpOnlyFlag (by decide) (by decide) (by decide)
  have certificate : lastOf members "tls_cert_path" = said given sources certificateFlag :=
    entry certificateFlag (by decide) (by decide) (by decide)
  have key : lastOf members "tls_key_path" = said given sources keyFlag :=
    entry keyFlag (by decide) (by decide) (by decide)
  obtain ⟨certificateNamed, certificatePresent⟩ := path_reads _ _ _ found.server.certificate
  obtain ⟨keyNamed, keyPresent⟩ := path_reads _ _ _ found.server.key
  rw [certificate] at certificateNamed
  rw [key] at keyNamed
  have plain := switch_reads _ _ found.server.httpOnly
  rw [httpOnly] at plain
  refine ⟨plain, certificateNamed, keyNamed, fun pair paired => ⟨?_, ?_⟩⟩
  · exact certificatePresent _ (congrArg (Option.map KeyPair.certificate) paired)
  · exact keyPresent _ (congrArg (Option.map KeyPair.key) paired)

end

section

variable (listen : Setup → Except Refusal Unit) (given : Given) (sources : Sources)

theorem refused_guarded (result : Result) (unserved : result.served = []) (code : result.exitCode = 1)
    (barred : ∀ settings, Settings.load sources = .ok settings →
      plainAsked given sources ≠ some true ∧ (certificateNamed given sources).isSome = false) :
    Guarded listen given sources result where
  plain setup member := by simp [unserved] at member
  encrypted setup member := by simp [unserved] at member
  invalid _ _ := unserved
  unpaired _ := unserved
  unprotected _ _ _ := unserved
  serves settings loaded secured := by
    obtain ⟨unasked, unnamed⟩ := barred settings loaded
    simp [unasked, unnamed] at secured
  once := by simp [unserved]
  refused _ := code
  ended := by simp [unserved, code]

theorem served_guarded (result : Result) (settings : Settings) (loaded : Settings.load sources = .ok settings)
    (settled : Settled given sources settings)
    (secured : settings.server.httpOnly = true ∨ settings.server.keyPair.isSome = true)
    (served : result.served = [Service.setupOf settings.server])
    (code : result.exitCode = 0 ↔ listen (Service.setupOf settings.server) = .ok ()) :
    Guarded listen given sources result where
  plain setup member clear := by
    rw [served, List.mem_singleton] at member
    subst member
    cases asked : settings.server.httpOnly with
    | true => rw [settled.plain, asked]
    | false =>
      simp only [Service.setupOf, asked, Bool.false_eq_true, if_false, Option.map_eq_none_iff] at clear
      simp [asked, clear] at secured
  encrypted setup member files encrypts := by
    rw [served, List.mem_singleton] at member
    subst member
    cases asked : settings.server.httpOnly with
    | true => simp [Service.setupOf, asked] at encrypts
    | false =>
      simp only [Service.setupOf, asked, Bool.false_eq_true, if_false, Option.map_eq_some_iff] at encrypts
      obtain ⟨pair, paired, rfl⟩ := encrypts
      obtain ⟨certificatePresent, keyPresent⟩ := settled.present pair paired
      rw [settled.plain, asked, settled.certificate, settled.key, paired]
      exact ⟨rfl, pair.certificate, pair.key, rfl, certificatePresent, rfl, keyPresent, rfl⟩
  invalid cause failed := by
    rw [loaded] at failed
    cases failed
  unpaired lone := by simp [settled.certificate, settled.key] at lone
  unprotected unasked unnamed _ := by
    have asked : settings.server.httpOnly = false := by simpa [settled.plain] using unasked
    have unpaired : settings.server.keyPair = none := by simpa [settled.certificate] using unnamed
    simp [asked, unpaired] at secured
  serves _ _ _ := ⟨_, served⟩
  once := by simp [served]
  refused unserved := by simp [served] at unserved
  ended := by simp [served, code]

theorem settled_guarded (settings : Settings) (loaded : Settings.load sources = .ok settings)
    (settled : Settled given sources settings) : Guarded listen given sources (serve listen settings) := by
  by_cases secured : settings.server.httpOnly = true ∨ settings.server.keyPair.isSome = true
  · obtain ⟨served, code⟩ := serve_listens listen settings secured
    exact served_guarded listen given sources _ settings loaded settled secured served code
  · rw [not_or, Bool.not_eq_true, Bool.not_eq_true, Option.isSome_eq_false_iff, Option.isNone_iff_eq_none] at secured
    obtain ⟨unasked, unpaired⟩ := secured
    obtain ⟨served, code⟩ := serve_refuses listen settings unasked unpaired
    refine refused_guarded listen given sources _ served code fun other same => ?_
    rw [loaded] at same
    cases same
    exact ⟨by simp [settled.plain, unasked], by simp [settled.certificate, unpaired]⟩

theorem serve_guarded (entrance : Entrance) (overrides : Members)
    (entered : request entrance.arguments = .command .serve overrides) :
    ∃ given, Typed entrance.arguments .serve given ∧
      Guarded listen given ⟨overrides, entrance.environment, entrance.directory, entrance.machine⟩
        (run listen entrance) := by
  obtain ⟨given, typed, made⟩ := request_typed _ _ _ entered
  refine ⟨given, typed, ?_⟩
  have ran : run listen entrance = withSettings entrance overrides (serve listen) := by simp only [run, entered]
  rw [ran, withSettings]
  cases loaded : Settings.load ⟨overrides, entrance.environment, entrance.directory, entrance.machine⟩ with
  | ok settings => exact settled_guarded listen given _ settings loaded (loaded_settled given _ made settings loaded)
  | error cause =>
    have barred (settings : Settings)
        (other : Settings.load ⟨overrides, entrance.environment, entrance.directory, entrance.machine⟩ = .ok settings) :
        plainAsked given ⟨overrides, entrance.environment, entrance.directory, entrance.machine⟩ ≠ some true ∧
          (certificateNamed given ⟨overrides, entrance.environment, entrance.directory, entrance.machine⟩).isSome =
            false := by
      rw [loaded] at other
      cases other
    cases cause <;> exact refused_guarded listen given _ _ rfl rfl barred

end

-- The environment undoes what the file of variables asks for, and the flags name two files that are there.
def secured : Entrance where
  arguments := ["serve", "--cert-path", "tls/server.crt", "--key-path=tls/server.key"]
  environment := [("admission_http_only", "false")]
  directory :=
    ⟨[("tls/server.crt", .empty), ("tls/server.key", .empty), (".env", Utf8.encode "ADMISSION_HTTP_ONLY=true\n")], []⟩
  machine := .bare

-- What a request overrides that asks to serve.
def serving? : Request → Option Members
  | .command .serve overrides => some overrides
  | _ => none

theorem serving_asked (asked : Request) (serves : (serving? asked).isSome = true) :
    ∃ overrides, asked = .command .serve overrides := by
  cases asked with
  | command which overrides =>
    cases which with
    | serve => exact ⟨overrides, rfl⟩
    | showConfig => cases serves
  | help | misuse => cases serves

theorem secured_guarded : ∃ overrides given, request secured.arguments = .command .serve overrides ∧
    Typed secured.arguments .serve given ∧
    Guarded (fun _ => .ok ()) given ⟨overrides, secured.environment, secured.directory, secured.machine⟩
      (run (fun _ => .ok ()) secured) ∧
    (run (fun _ => .ok ()) secured).served.map Setup.tls = [some ⟨"tls/server.crt", "tls/server.key", none⟩] := by
  obtain ⟨overrides, entered⟩ := serving_asked (request secured.arguments) (by decide +kernel)
  obtain ⟨given, typed, guarded⟩ := serve_guarded (fun _ => .ok ()) secured overrides entered
  exact ⟨overrides, given, entered, typed, guarded, by decide +kernel⟩

end Gatehouse.CommandLine
