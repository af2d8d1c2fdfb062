import SetterResolution.Proofs.Session.Files
import SetterResolution.Proofs.Snapshot.Nearest

/-!
# What a session leaves to the next one

After every round a session replaces the file of its module, so that the last round decides what
stands there: all the tables of the session, those that it was opened with included. Nothing is said
about the disk between two rounds, where other sessions may do what they like.

When the module is opened again, its own file is loaded before all others, whatever the module
depends on by then. So the new session finds every entry that the last one had
(`SetterResolution.Session.reopen_of_saves`); entries of other modules can only come under other
keys, and none comes if the module depends on nothing.

That the file is read again takes three things: its path leads to what was moved there
(`SetterResolution.Disk.read_of_replace`), the registry is one that can be kept, since it began with
what files have and rounds keep it so (`SetterResolution.Registry.Reachable`), and there are less
than `2 ^ 64` bytes, as lengths are kept in eight bytes.
-/

namespace SetterResolution.Session

variable {settings : Settings} {session next closed : Session} {round : Round} {rounds : List Round}
  {disk after : Disk}

/-- A session processes rounds, one at least, and every one of them is written to the file of the
module. The disk may be any other one before each round; `after` is the disk after the last. -/
inductive Saves : Session → List Round → Session → Disk → Prop
  /-- The last round is written. -/
  | last {session closed : Session} {round : Round} {before after : Disk} {report : Report} :
      session.process round before = (closed, after, .ok report) →
        Saves session [round] closed after
  /-- A round is written, and others follow. -/
  | more {session next closed : Session} {round : Round} {rounds : List Round}
      {before between after : Disk} {report : Report} :
      session.process round before = (next, between, .ok report) →
      Saves next rounds closed after → Saves session (round :: rounds) closed after

/-- What is known of a session and the disk after a round. -/
structure Written (settings : Settings) (session : Session) (disk : Disk) : Prop where
  /-- The session has its settings still. -/
  settings_eq : session.settings = settings
  /-- Its tables can be kept. -/
  reachable : session.registry.Reachable
  /-- The file of the module has them. -/
  file : disk.read settings.snapshotPath = .ok (Snapshot.encode session.tables)

/-- **A round** leaves all tables of the session in the file of the module. -/
theorem written_of_process {report : Report} (hsettings : session.settings = settings)
    (hreachable : session.registry.Reachable)
    (h : session.process round disk = (next, after, .ok report)) : Written settings next after := by
  obtain ⟨rfl, hruns⟩ := runs_of_process h
  refine ⟨hsettings, hreachable.process round, ?_⟩
  rw [← hsettings]
  exact Disk.read_of_replace hruns

/-- **Any number of rounds** do so. -/
theorem Saves.written (h : session.Saves rounds closed after)
    (hsettings : session.settings = settings) (hreachable : session.registry.Reachable) :
    Written settings closed after := by
  induction h with
  | last hround => exact written_of_process hsettings hreachable hround
  | more hround _ ih =>
    have hnext := written_of_process hsettings hreachable hround
    exact ih hnext.settings_eq hnext.reachable

/-- The tables are read from the file again. -/
theorem Written.read (h : Written settings session disk)
    (hlength : (Snapshot.encode session.tables).length < 2 ^ 64) :
    Snapshot.read disk settings.snapshotPath = .ok (some session.tables) := by
  have hdecode : Snapshot.decode (Snapshot.encode session.tables) = .ok session.tables :=
    Snapshot.decode_encode_of_reachable h.reachable hlength
  rw [Snapshot.read, h.file]
  dsimp only
  rw [hdecode]

theorem validate_of_start {graph : ModuleGraph}
    (h : start settings graph disk = .ok session) : settings.validate = .ok () := by
  rw [start] at h
  cases hvalid : settings.validate with
  | error error =>
    rw [hvalid] at h
    cases h
  | ok => rfl

/-- **What a session leaves.** A session is opened, processes rounds, and writes all of them. The
file of its module then has just the tables of the session. When the module is opened again with its
file as it was left, with any dependencies and with anything in all other files, the new session
finds every entry of the last one, and it has the same tables if the module depends on nothing. -/
theorem reopen_of_saves {graph : ModuleGraph} (hopen : start settings graph disk = .ok session)
    (hsaves : session.Saves rounds closed after)
    (hlength : (Snapshot.encode closed.tables).length < 2 ^ 64) :
    Snapshot.read after settings.snapshotPath = .ok (some closed.tables) ∧
    ∀ (graph' : ModuleGraph) (later : Disk),
      later.read settings.snapshotPath = after.read settings.snapshotPath →
      ∃ reopened, start settings graph' later = .ok reopened ∧
        (∀ key entry, closed.tables.lookup? key = some entry →
          reopened.tables.lookup? key = some entry) ∧
        (graph'.dependencies settings.moduleName = [] → reopened.tables = closed.tables) := by
  have hvalid := validate_of_start hopen
  obtain rfl := eq_of_start hopen
  have hwritten : Written settings closed after :=
    hsaves.written rfl (Layout.reachable_loadMerged _ _ _ _)
  refine ⟨hwritten.read hlength, fun graph' later hlater => ?_⟩
  have hown : Snapshot.readOrEmpty later (settings.layout.path settings.moduleName) =
      closed.tables := by
    have hread := hwritten.read hlength
    rw [Snapshot.read, ← hlater, ← Snapshot.read, Settings.snapshotPath] at hread
    rw [Snapshot.readOrEmpty, hread]
  refine ⟨_, start_of_validate hvalid graph' later, fun key entry hentry => ?_, fun hnone => ?_⟩
  · exact Layout.lookup?_loadMerged_of_own graph' (hown ▸ hentry)
  · exact (Layout.loadMerged_of_no_dependencies hnone).trans hown

/-- An app is compiled in two rounds. It finds its adapter again when it depends on a library by
then, and has the same tables when it does not. -/
theorem reopen_of_saves_two_rounds :
    let settings : Settings := { moduleName := "app", snapshotSuffix := ".bin" }
    let round (owner attr : String) : Round :=
      { adapters := [⟨[attr], ⟨⟨.named owner, "bind", [.named "View", .named "String"], none, true,
          true, lowestPlatform⟩, .ofElement owner⟩⟩] }
    let rounds := [round "Größe" "app:hint", round "Owner" "text"]
    let key : EntryKey := .adapter ⟨"hint"⟩ ⟨.named "View", .named "String"⟩
    let entry : Entry :=
      .adapter ⟨"hint"⟩ ⟨.named "View", .named "String"⟩ ⟨.named "Größe", "bind"⟩
    ∃ session closed after, start settings .empty .empty = .ok session ∧
      session.Saves rounds closed after ∧
      (Snapshot.encode closed.tables).length < 2 ^ 64 ∧
      Snapshot.read after settings.snapshotPath = .ok (some closed.tables) ∧
      (∃ reopened,
        start settings (ModuleGraph.empty.addDependency "app" "lib") after = .ok reopened ∧
        reopened.tables.lookup? key = some entry) ∧
      ∃ reopened, start settings .empty after = .ok reopened ∧ reopened.tables = closed.tables := by
  intro settings round rounds key entry
  let session := withTables settings (settings.layout.loadMerged .empty .empty settings.moduleName)
  let first := session.process (round "Größe" "app:hint") .empty
  let second := first.1.process (round "Owner" "text") first.2.1
  have hopen : start settings .empty .empty = .ok session :=
    start_of_validate (by decide +kernel) _ _
  have hdone : second.2.2.isOk = true ∧ (Snapshot.encode second.1.tables).length < 2 ^ 64 ∧
      second.1.tables.lookup? key = some entry := by decide +kernel
  have hbegun : first.2.2.isOk = true := by decide +kernel
  obtain ⟨_, hfirst⟩ := exists_report hbegun
  obtain ⟨_, hsecond⟩ := exists_report hdone.1
  have hsaves : session.Saves rounds second.1 second.2.1 := .more hfirst (.last hsecond)
  obtain ⟨hread, hreopen⟩ := reopen_of_saves hopen hsaves hdone.2.1
  obtain ⟨reopened, hstart, hfinds, -⟩ := hreopen (ModuleGraph.empty.addDependency "app" "lib")
    second.2.1 rfl
  obtain ⟨same, hsame, -, htables⟩ := hreopen .empty second.2.1 rfl
  exact ⟨session, second.1, second.2.1, hopen, hsaves, hdone.2.1, hread,
    ⟨reopened, hstart, hfinds key entry hdone.2.2⟩, same, hsame, htables rfl⟩

end SetterResolution.Session
