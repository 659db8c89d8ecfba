import Gatehouse.Proofs.Json.Indented
import Gatehouse.Proofs.Settings.Failures
import Gatehouse.Proofs.Settings.Namespaces
import Gatehouse.Proofs.Settings.Paths
import Mathlib.Data.List.Nodup
import Mathlib.Data.List.Perm.Basic
import Mathlib.Data.Set.List

/- Settings that are shown as JSON and given back. Every setting is read as it is shown, but for a grace period without
   end, which is shown as null; and the required annotations, given back as members, no longer hide those that the
   environment or the file of variables has under other keys. -/
namespace Gatehouse

/- Each setting as it is shown -/

theorem Port.read_shown (port : Port) : Port.read (.int port.number) = .ok (.ok port) := by
  obtain ⟨number, lowest, highest⟩ := port
  simp [Port.read, Format.integer, Format.readInteger, Format.lifted, lowest, highest]

theorem ByteLimit.read_shown (limit : ByteLimit) : ByteLimit.read (.int limit.bytes) = .ok (.ok limit) := by
  obtain ⟨bytes, positive⟩ := limit
  simp [ByteLimit.read, Format.integer, Format.readInteger, Format.lifted, positive]

theorem GracePeriod.read_shown (grace : GracePeriod) : GracePeriod.read (.float grace.seconds) = .ok (.ok grace) := by
  obtain ⟨seconds, positive⟩ := grace
  simp [GracePeriod.read, Format.number, Format.readNumber, Format.lifted, positive]

theorem CloudProvider.read_shown (provider : CloudProvider) :
    CloudProvider.read (.string provider.name) = .ok (.ok provider) := by
  cases provider <;> rfl

theorem Path.read_shown (directory : Directory) (path : Option Path)
    (there : ∀ file, path = some file → file.Kept ∧ directory.lookup file = .present) :
    Path.read directory (ServerSettings.pathValue path) = .ok (.ok path) := by
  cases path with
  | none => rfl
  | some file =>
    obtain ⟨kept, present⟩ := there file rfl
    simp only [ServerSettings.pathValue, Path.read, Path.of_text_text file kept, present]

theorem names_read_shown (names : Namespaces) : readNames (.array (names.map .string)) = .ok (.ok names) :=
  (items_read_iff _ names).mpr rfl

namespace Settings

/- The text that shows the settings -/

-- What is read of it.
def exported (settings : Settings) : Members := Json.rereadMembers (fun _ => .null) settings.members

theorem path_fits (path : Option Path) (room : Nat) : (ServerSettings.pathValue path).Fits room := by
  cases path with
  | none => exact .null room
  | some file => exact .string room file.text

theorem port_short (port : Port) : Json.ShortInt port.number := by
  obtain ⟨number, lowest, highest⟩ := port
  exact Format.short_of_bound number 5 (by decide) (by decide) (by omega)

theorem members_fit (settings : Settings) (short : Json.ShortInt settings.server.limit.bytes) :
    (Json.object settings.members).Fits 2 := by
  have port : (Json.int settings.server.port.number).Fits 1 := .int 1 _ (port_short settings.server.port)
  have limit : (Json.int settings.server.limit.bytes).Fits 1 := .int 1 _ short
  have required : Json.AllFit 0 (settings.required.map RequiredAnnotation.entryOf) := by
    intro entry member
    obtain ⟨required, _, rfl⟩ := List.mem_map.mp member
    exact .string 0 required.text
  have ignored : ∀ item ∈ settings.ignored.map Json.string, item.Fits 0 := by
    intro item member
    obtain ⟨name, _, rfl⟩ := List.mem_map.mp member
    exact .string 0 name
  have listed : (Json.array (settings.ignored.map .string)).Fits 1 := (Json.fits_array 0 _).mpr ignored
  refine (Json.fits_object 1 _).mpr ?_
  simp only [Settings.members, ServerSettings.members, Json.AllFit, List.forall_mem_append, List.forall_mem_cons,
    List.not_mem_nil, false_implies, implies_true, and_true]
  exact ⟨⟨.string _ _, port, path_fits _ _, path_fits _ _, .bool _ _, limit, .float _ _, .bool _ _, .bool _ _⟩, listed,
    .string _ _, (Json.fits_object 0 _).mpr required⟩

theorem document_read (settings : Settings) (short : Json.ShortInt settings.server.limit.bytes) :
    Json.readFreely settings.document = .ok (.object settings.exported) := by
  have long : 2 ≤ settings.document.length := by
    rw [document, Json.indentedText, String.length_ofList]
    simp only [Settings.members, ServerSettings.members, Json.writeIndented, List.cons_append, List.length_cons,
      List.length_append]
    omega
  exact Json.read_indented Json.compact _ Json.compact_loses _ _ (Json.fits_more 2 _ _ (members_fit settings short) long)

theorem document_unread (settings : Settings) (long : ¬ Json.ShortInt settings.server.limit.bytes) (found : Json) :
    Json.readFreely settings.document ≠ .ok found := by
  apply Json.read_indented_long Json.compact _ Json.compact_loses (settings.members.take 5) "limit_bytes"
    settings.server.limit.bytes (settings.members.drop 6) (by simp [Settings.members, ServerSettings.members]) _ long
  intro room
  simp only [Settings.members, ServerSettings.members, Json.AllFit, List.cons_append, List.take_succ_cons,
    List.take_zero, List.forall_mem_cons, List.not_mem_nil, false_implies, implies_true, and_true]
  exact ⟨.string _ _, .int _ _ (port_short _), path_fits _ _, path_fits _ _, .bool _ _⟩

theorem exported_whole (settings : Settings) (whole : settings.server.grace.seconds.isFinite = true) :
    settings.exported = settings.members := by
  apply Json.reread_finite_members
  have required : (Json.object (settings.required.map RequiredAnnotation.entryOf)).finite = true := by
    refine (Json.finite_members _).mpr fun entry member => ?_
    obtain ⟨required, _, rfl⟩ := List.mem_map.mp member
    rfl
  have ignored : (Json.array (settings.ignored.map .string)).finite = true := by
    refine (Json.finite_items _).mpr fun item member => ?_
    obtain ⟨name, _, rfl⟩ := List.mem_map.mp member
    rfl
  have path (path : Option Path) : (ServerSettings.pathValue path).finite = true := by cases path <;> rfl
  simp only [Settings.members, ServerSettings.members, Json.finiteMembers, List.cons_append, List.nil_append, path,
    ignored, Bool.and_true, Bool.true_and, Bool.and_eq_true]
  exact ⟨rfl, rfl, rfl, rfl, whole, rfl, rfl, rfl, required⟩

theorem exported_endless (settings : Settings) (endless : settings.server.grace.seconds.isFinite = false) :
    lastOf settings.exported "grace_period" = some .null := by
  have last : lastOf settings.exported "grace_period" =
      some (Json.reread (fun _ => .null) (.float settings.server.grace.seconds)) := rfl
  rw [last]
  cases seconds : settings.server.grace.seconds with
  | finite => rw [seconds] at endless; cases endless
  | nan | infinite => rfl

theorem exported_keys (settings : Settings) : keysOf settings.exported = fieldNames := by
  rw [exported, Json.reread_members_map, keysOf, List.map_map]
  rfl

theorem members_settled (settings : Settings) (distinct : (settings.required.map RequiredAnnotation.key).Nodup) :
    (Json.object settings.members).collapsed = .object settings.members := by
  have ignored : (Json.array (settings.ignored.map .string)).collapsed = .array (settings.ignored.map .string) := by
    rw [Json.collapsed, Json.collapsed_items_entry, List.map_map]
    rfl
  have entries : Json.collapsedMembers (settings.required.map RequiredAnnotation.entryOf) =
      settings.required.map RequiredAnnotation.entryOf := by
    refine Json.collapsed_members_fixed _ fun entry member => ?_
    obtain ⟨required, _, rfl⟩ := List.mem_map.mp member
    rfl
  have once : (keysOf (settings.required.map RequiredAnnotation.entryOf)).Nodup := by
    rw [keysOf, List.map_map]
    exact distinct
  have required : (Json.object (settings.required.map RequiredAnnotation.entryOf)).collapsed =
      .object (settings.required.map RequiredAnnotation.entryOf) := by
    rw [Json.collapsed, entries, merged_fixed _ once]
  have path (path : Option Path) : (ServerSettings.pathValue path).collapsed = ServerSettings.pathValue path := by
    cases path <;> rfl
  have every : ∀ entry ∈ settings.members, entry.2.collapsed = entry.2 := by
    simp only [Settings.members, ServerSettings.members, List.forall_mem_append, List.forall_mem_cons, path, ignored]
    simp only [List.not_mem_nil, false_implies, implies_true, and_true, true_and]
    exact ⟨⟨rfl, rfl, rfl, rfl, rfl, rfl, rfl⟩, rfl, required⟩
  rw [Json.collapsed, Json.collapsed_members_fixed _ every, merged_fixed _ (by exact field_names_distinct)]

end Settings

/- Members given back to the sources that the settings came from -/

namespace Sources

def giving (sources : Sources) (members : Members) : Sources := { sources with given := members }

theorem reads_given {α : Type} (sources : Sources) (field : String) (json : Json) (absent : α)
    (read : Json → Attempt α) (value : α) (plain : documentFields.contains field = false)
    (given : lastOf sources.given field = some json) (reads : read json = .ok (.ok value)) :
    Attempt.Reads (sources.gathered field) absent read value := by
  rw [sources.gathered_first field (.inl plain), first, given, Option.some_or]
  exact reads

-- What is given does not bear on whether the sources can be read.
theorem Unread.giving {sources : Sources} {cause : SettingsFailure} (unread : sources.Unread cause)
    (members : Members) : (Sources.giving sources members).Unread cause := by
  cases unread with
  | closed shut => exact .closed shut
  | undecodable bytes failure found undecoded => exact .undecodable bytes failure found undecoded
  | unparsed source text failure assigned undecoded =>
    refine .unparsed source text failure ?_ undecoded
    cases source <;> exact assigned
  | exhausted source text message assigned ended =>
    refine .exhausted source text message ?_ ended
    cases source <;> exact assigned

end Sources

namespace Settings

-- The same settings; what is required of annotations has no order.
structure Same (left right : Settings) : Prop where
  server : left.server = right.server
  ignored : left.ignored = right.ignored
  provider : left.provider = right.provider
  required : left.required.Perm right.required

/-- The text that shows the settings is read, and its members, given in place of what was given, are accepted and come
    to the same settings. -/
def Faithful (sources : Sources) (settings : Settings) : Prop :=
  ∃ members again, Json.readFreely settings.document = .ok (.object members) ∧
    load (sources.giving members) = .ok again ∧ again.Same settings

-- What the environment or the file of variables requires under a key.
def SaidElsewhere (sources : Sources) (key : String) : Prop :=
  memberOf (sources.inEnvironment "required_annotations") key ≠ none ∨
    memberOf (sources.inFile "required_annotations") key ≠ none

-- No key of theirs is hidden, as it is by a text of annotations that stands before them.
def Unhidden (sources : Sources) (settings : Settings) : Prop :=
  ∀ key, SaidElsewhere sources key → key ∈ settings.required.map RequiredAnnotation.key

theorem path_kept (directory : Directory) (found : Option Json) (path : Option Path)
    (reads : Attempt.Reads found none (Path.read directory) path) (file : Path) (named : path = some file) :
    file.Kept ∧ directory.lookup file = .present := by
  obtain ⟨meant, there⟩ := path_reads directory found path reads
  refine ⟨?_, there file named⟩
  rw [named] at meant
  cases found with
  | none => cases meant
  | some json =>
    cases json with
    | string text =>
      cases meant
      exact Path.of_text_kept text
    | null | bool | int | float | array | object => cases meant

-- Annotations that stand in another order are those that were held.
theorem entries_required (machine : Machine) (all : Members) (required : List RequiredAnnotation)
    (holds : RequiredAnnotation.Holds machine (.object (required.map RequiredAnnotation.entryOf)) required)
    (same : all.Perm (required.map RequiredAnnotation.entryOf)) :
    ∃ others, RequiredAnnotation.Holds machine (.object all) others ∧ others.Perm required := by
  have shown : List.Forall₂ (fun entry annotation => entry = RequiredAnnotation.entryOf annotation)
      (required.map RequiredAnnotation.entryOf) required := by
    rw [← List.forall₂_map_right_iff, List.forall₂_eq_eq_eq]
  obtain ⟨others, listed, shuffled⟩ := List.perm_comp_forall₂ same shown
  rw [← List.forall₂_map_right_iff, List.forall₂_eq_eq_eq] at listed
  subst listed
  refine ⟨others, ⟨.plain _ nofun, ?_, ?_⟩, shuffled⟩
  · intro annotation member
    exact holds.compile annotation (shuffled.mem_iff.mp member)
  · refine List.flatMap_eq_nil_iff.mpr fun annotation member => ?_
    exact List.flatMap_eq_nil_iff.mp holds.whole annotation (shuffled.mem_iff.mp member)

theorem elsewhere_listed (sources : Sources) (all : Members) (required : List RequiredAnnotation)
    (listed : all = required.map RequiredAnnotation.entryOf)
    (entries : ∀ key, lastOf all key = sources.gatheredMember "required_annotations" key) (key : String)
    (elsewhere : SaidElsewhere sources key) : key ∈ required.map RequiredAnnotation.key := by
  have present : lastOf all key ≠ none := by
    rw [entries, ne_eq, Sources.gathered_member_none]
    intro nowhere
    obtain ⟨_, others⟩ := Option.or_eq_none_iff.mp nowhere
    obtain ⟨environment, file⟩ := Option.or_eq_none_iff.mp others
    exact elsewhere.elim (absurd environment) (absurd file)
  rwa [ne_eq, last_of_none, not_not, listed, keysOf, List.map_map] at present

section

variable (sources : Sources) (settings : Settings)
  (settled : (Json.object sources.given).collapsed = .object sources.given) (loaded : load sources = .ok settings)

include settled loaded

theorem required_held : settings.required = [] ∨ ∃ value, sources.gathered "required_annotations" = some value ∧
    RequiredAnnotation.Holds sources.machine value settings.required := by
  have read := (load_gathered sources settings settled loaded).required
  cases found : sources.gathered "required_annotations" with
  | none =>
    rw [found] at read
    exact .inl read
  | some value =>
    rw [found] at read
    exact .inr ⟨value, rfl, ( RequiredAnnotation.read_all_ok sources.machine value settings.required).mp read⟩

theorem required_distinct : (settings.required.map RequiredAnnotation.key).Nodup := by
  rcases required_held sources settings settled loaded with none | ⟨value, found, holds⟩
  · rw [none]
    exact List.nodup_nil
  · have single := found ▸ sources.gathered_single settled "required_annotations"
    exact held_single sources.machine value settings.required single holds.means

-- Annotations that are held are held again when they are shown as members.
theorem required_held_again : RequiredAnnotation.Holds sources.machine
    (.object (settings.required.map RequiredAnnotation.entryOf)) settings.required := by
  rcases required_held sources settings settled loaded with none | ⟨value, _, holds⟩
  · rw [none]
    exact ⟨.plain _ nofun, nofun, rfl⟩
  · exact ⟨.plain _ nofun, holds.compile, holds.whole⟩

-- All but the required annotations are read as they were shown.
theorem given_otherwise : Otherwise sources.directory (sources.giving settings.members).gathered settings.server
    settings.ignored settings.provider := by
  have read := load_gathered sources settings settled loaded
  have path (found : Option Json) (path : Option Path)
      (reads : Attempt.Reads found none (Path.read sources.directory) path) :
      Path.read sources.directory (ServerSettings.pathValue path) = .ok (.ok path) :=
    Path.read_shown sources.directory path (path_kept sources.directory found path reads)
  refine ⟨?_, ?_, ?_⟩
  · constructor
    · exact Sources.reads_given _ _ _ _ _ _ rfl rfl rfl
    · exact Sources.reads_given _ _ _ _ _ _ rfl rfl (Port.read_shown _)
    · exact Sources.reads_given _ _ _ _ _ _ rfl rfl (path _ _ read.server.certificate)
    · exact Sources.reads_given _ _ _ _ _ _ rfl rfl (path _ _ read.server.key)
    · exact Sources.reads_given _ _ _ _ _ _ rfl rfl rfl
    · exact Sources.reads_given _ _ _ _ _ _ rfl rfl (ByteLimit.read_shown _)
    · exact Sources.reads_given _ _ _ _ _ _ rfl rfl (GracePeriod.read_shown _)
    · exact Sources.reads_given _ _ _ _ _ _ rfl rfl rfl
    · exact Sources.reads_given _ _ _ _ _ _ rfl rfl rfl
  · exact Sources.reads_given _ _ _ _ _ _ rfl rfl (names_read_shown _)
  · exact Sources.reads_given _ _ _ _ _ _ rfl rfl (CloudProvider.read_shown _)

theorem given_back : ∃ all, (keysOf all).Nodup ∧
    (∀ key, lastOf all key = (sources.giving settings.members).gatheredMember "required_annotations" key) ∧
    ∀ again, load (sources.giving settings.members) = .ok again ↔ ∃ required,
      RequiredAnnotation.Holds sources.machine (.object all) required ∧
        again = ⟨settings.server, settings.ignored, settings.provider, required⟩ := by
  have shown := members_settled settings (required_distinct sources settings settled loaded)
  have readable : ∀ cause, ¬ (sources.giving settings.members).Unread cause := by
    obtain ⟨members, found, _⟩ := load_ok sources settings loaded
    have whole := (sources.members_read (Json.collapsed_object _ settled).1).mp ⟨members, found⟩
    exact fun cause unread => whole cause (unread.giving sources.given)
  obtain ⟨all, together, once, entries⟩ :=
    (sources.giving settings.members).gathered_members shown "required_annotations" _ rfl
  have judged := (required_annotations_judged (sources.giving settings.members) settings.server settings.ignored
    settings.provider shown readable (given_otherwise sources settings settled loaded)).2 _ together
  exact ⟨all, once, entries, judged.built⟩

omit settled loaded in
theorem unhidden_entries (unhidden : Unhidden sources settings) (all : Members)
    (entries : ∀ key, lastOf all key = (sources.giving settings.members).gatheredMember "required_annotations" key)
    (key : String) : lastOf all key = lastOf (settings.required.map RequiredAnnotation.entryOf) key := by
  have said : (sources.giving settings.members).firstMember "required_annotations" key =
      (lastOf (settings.required.map RequiredAnnotation.entryOf) key).or
        ((memberOf (sources.inEnvironment "required_annotations") key).or
          (memberOf (sources.inFile "required_annotations") key)) := rfl
  rw [entries]
  cases listed : lastOf (settings.required.map RequiredAnnotation.entryOf) key with
  | some json =>
    obtain ⟨required, _, same⟩ := List.mem_map.mp (last_of_member _ _ _ listed)
    cases same
    rw [listed, Option.some_or] at said
    exact (Sources.gathered_member_text _ _ _ _).mpr said
  | none =>
    have absent : key ∉ settings.required.map RequiredAnnotation.key := by
      have unlisted := (last_of_none _ key).mp listed
      rwa [keysOf, List.map_map] at unlisted
    have nowhere : ¬ SaidElsewhere sources key := fun elsewhere => absent (unhidden key elsewhere)
    obtain ⟨environment, file⟩ := not_or.mp nowhere
    rw [listed, not_not.mp environment, not_not.mp file] at said
    exact (Sources.gathered_member_none _ _ _).mpr said

theorem whole_faithful (whole : settings.server.grace.seconds.isFinite = true)
    (short : Json.ShortInt settings.server.limit.bytes) (unhidden : Unhidden sources settings) :
    Faithful sources settings := by
  obtain ⟨all, once, entries, accepted⟩ := given_back sources settings settled loaded
  have same := unhidden_entries sources settings unhidden all entries
  have distinct : (keysOf (settings.required.map RequiredAnnotation.entryOf)).Nodup := by
    rw [keysOf, List.map_map]
    exact required_distinct sources settings settled loaded
  have shuffled : all.Perm (settings.required.map RequiredAnnotation.entryOf) := by
    refine (List.perm_ext_iff_of_nodup (List.Nodup.of_map _ once) (List.Nodup.of_map _ distinct)).mpr fun entry => ?_
    rw [← last_of_iff all entry.1 entry.2 once, same, last_of_iff _ _ _ distinct]
  obtain ⟨required, holds, ordered⟩ := entries_required sources.machine all settings.required
    (required_held_again sources settings settled loaded) shuffled
  refine ⟨settings.members, ⟨settings.server, settings.ignored, settings.provider, required⟩, ?_,
    (accepted _).mpr ⟨required, holds, rfl⟩, ⟨rfl, rfl, rfl, ordered⟩⟩
  rw [document_read settings short, exported_whole settings whole]

theorem faithful_unhidden (again : Settings) (accepted : load (sources.giving settings.members) = .ok again)
    (same : again.Same settings) : Unhidden sources settings := by
  intro key elsewhere
  obtain ⟨all, _, entries, taken⟩ := given_back sources settings settled loaded
  obtain ⟨required, holds, rfl⟩ := (taken again).mp accepted
  have listed : all = required.map RequiredAnnotation.entryOf := by
    cases holds.means
    rfl
  have member := elsewhere_listed (sources.giving settings.members) all required listed entries key elsewhere
  exact (same.required.map RequiredAnnotation.key).mem_iff.mp member

-- Members fill in what stands behind them, so only a text hides it.
theorem unhidden_without_text (plain : ∀ text, sources.first "required_annotations" ≠ some (.string text)) :
    Unhidden sources settings := by
  intro key elsewhere
  have read := load_gathered sources settings settled loaded
  cases led : sources.first "required_annotations" with
  | none =>
    obtain ⟨_, others⟩ := Option.or_eq_none_iff.mp led
    obtain ⟨environment, file⟩ := Option.or_eq_none_iff.mp others
    rw [SaidElsewhere, environment, file] at elsewhere
    exact elsewhere.elim (absurd rfl) (absurd rfl)
  | some json =>
    cases json with
    | object members =>
      obtain ⟨all, listed, _, entries⟩ := required_listed sources settings settled read members led
      exact elsewhere_listed sources all settings.required listed entries key elsewhere
    | string text => exact absurd led (plain text)
    | null | bool | int | float | array =>
      have taken := read.required
      rw [sources.gathered_first _ (.inr (by simp [led])), led] at taken
      cases taken

end

theorem endless_refused (sources : Sources) (settings again : Settings)
    (endless : settings.server.grace.seconds.isFinite = false) :
    load (sources.giving settings.exported) ≠ .ok again := by
  intro accepted
  have distinct : (keysOf settings.exported).Nodup := by
    rw [exported_keys]
    exact field_names_distinct
  obtain ⟨members, found, read⟩ := load_ok _ again accepted
  have said := Sources.plain_said _ fieldNames field_names_distinct distinct members found "grace_period" (by decide) rfl
  have given : (sources.giving settings.exported).said "grace_period" = some .null := by
    rw [Sources.said, Sources.giving, exported_endless settings endless, Option.some_or]
  have grace := read.server.grace
  rw [said, given] at grace
  cases grace

theorem faithful_read (sources : Sources) (settings : Settings) (faithful : Faithful sources settings) :
    settings.server.grace.seconds.isFinite = true ∧ Json.ShortInt settings.server.limit.bytes ∧
      ∃ again, load (sources.giving settings.members) = .ok again ∧ again.Same settings := by
  obtain ⟨members, again, read, accepted, same⟩ := faithful
  have short : Json.ShortInt settings.server.limit.bytes := by
    by_contra long
    exact document_unread settings long _ read
  obtain rfl : settings.exported = members := by
    rw [document_read settings short] at read
    cases read
    rfl
  cases whole : settings.server.grace.seconds.isFinite with
  | false => exact absurd accepted (endless_refused sources settings again whole)
  | true =>
    rw [exported_whole settings whole] at accepted
    exact ⟨rfl, short, again, accepted, same⟩

theorem export_faithful (sources : Sources) (settings : Settings)
    (settled : (Json.object sources.given).collapsed = .object sources.given) (loaded : load sources = .ok settings) :
    (Faithful sources settings ↔ settings.server.grace.seconds.isFinite = true ∧
      Json.ShortInt settings.server.limit.bytes ∧ Unhidden sources settings) ∧
    ((∀ text, sources.first "required_annotations" ≠ some (.string text)) → Unhidden sources settings) := by
  refine ⟨⟨fun faithful => ?only, fun ⟨whole, short, unhidden⟩ => ?enough⟩,
    unhidden_without_text sources settings settled loaded⟩
  case only =>
    obtain ⟨whole, short, again, accepted, same⟩ := faithful_read sources settings faithful
    exact ⟨whole, short, faithful_unhidden sources settings settled loaded again accepted same⟩
  case enough => exact whole_faithful sources settings settled loaded whole short unhidden

/- Settings from three sources, with the files of the listener in the directory. -/

def shownSources : Sources where
  given := [("grace_period", .int 30), ("tls_cert_path", .string "./tls.crt"), ("tls_key_path", .string "tls.key"),
    ("required_annotations", .object [("owner", .string "x")])]
  environment := [("ADMISSION_PORT", "9443"), ("ADMISSION_REQUIRED_ANNOTATIONS", "\x7b\"team\":\"y\"\x7d")]
  directory :=
    ⟨[("tls.crt", .empty), ("tls.key", .empty),
      (".env", Utf8.encode "ADMISSION_IGNORED_NAMESPACES=kube-system,monitoring")], []⟩
  machine := .bare

theorem shown_given_back : ∃ settings, load shownSources = .ok settings ∧
    settings.ignored = ["kube-system", "monitoring"] ∧
    settings.required.map RequiredAnnotation.key = ["team", "owner"] ∧ Faithful shownSources settings := by
  have loads : loadedWith (fun settings => settings.server.grace.seconds.isFinite &&
      settings.server.limit.bytes == 1024 * 1024 * 1024 && settings.ignored == ["kube-system", "monitoring"] &&
      settings.required.map RequiredAnnotation.key == ["team", "owner"]) (load shownSources) = true := by
    decide +kernel
  obtain ⟨settings, loaded, looks⟩ := loaded_with _ _ loads
  simp only [Bool.and_eq_true, beq_iff_eq] at looks
  obtain ⟨⟨⟨whole, limit⟩, ignored⟩, required⟩ := looks
  have short : Json.ShortInt settings.server.limit.bytes := by
    rw [limit]
    exact Format.short_of_bound _ 10 (by decide) (by decide) (by decide)
  have plain : ∀ text, shownSources.first "required_annotations" ≠ some (.string text) := by
    intro text led
    cases led
  have unhidden := (export_faithful shownSources settings rfl loaded).2 plain
  have faithful := (export_faithful shownSources settings rfl loaded).1.mpr ⟨whole, short, unhidden⟩
  exact ⟨settings, loaded, ignored, required, faithful⟩

/- A grace period without end, and a text of annotations before members of the environment. -/

def endlessSources : Sources := ⟨[("grace_period", .string "inf")], [], ⟨[], []⟩, .bare⟩

def hidingSources : Sources where
  given := [("required_annotations", .string "\x7b\"owner\":\"x\"\x7d")]
  environment := [("ADMISSION_REQUIRED_ANNOTATIONS", "\x7b\"team\":\"y\"\x7d")]
  directory := ⟨[], []⟩
  machine := .bare

theorem endless_unfaithful : ∃ settings, load endlessSources = .ok settings ∧ ¬ Faithful endlessSources settings := by
  have loads : loadedWith (fun settings => !settings.server.grace.seconds.isFinite) (load endlessSources) = true := by
    decide +kernel
  obtain ⟨settings, loaded, endless⟩ := loaded_with _ _ loads
  refine ⟨settings, loaded, fun faithful => ?_⟩
  obtain ⟨whole, _⟩ := faithful_read endlessSources settings faithful
  rw [whole] at endless
  cases endless

theorem hidden_unfaithful : ∃ settings, load hidingSources = .ok settings ∧ ¬ Faithful hidingSources settings := by
  have loads : loadedWith (fun settings => settings.required.map RequiredAnnotation.key == ["owner"])
      (load hidingSources) = true := by decide +kernel
  obtain ⟨settings, loaded, keys⟩ := loaded_with _ _ loads
  refine ⟨settings, loaded, fun faithful => ?_⟩
  obtain ⟨_, _, again, accepted, same⟩ := faithful_read hidingSources settings faithful
  have said : memberOf (hidingSources.inEnvironment "required_annotations") "team" ≠ none :=
    Option.isSome_iff_ne_none.mp (by decide +kernel)
  have member := faithful_unhidden hidingSources settings rfl loaded again accepted same "team" (.inl said)
  rw [eq_of_beq keys] at member
  exact absurd member (by decide)

theorem exports_lose : (∃ settings, load endlessSources = .ok settings ∧ ¬ Faithful endlessSources settings) ∧
    ∃ settings, load hidingSources = .ok settings ∧ ¬ Faithful hidingSources settings :=
  ⟨endless_unfaithful, hidden_unfaithful⟩

end Settings
end Gatehouse
