import Mathlib.Logic.Relation
import SetterResolution.Proofs.Session.Files

/-!
# What a module sees of the module that it depends on

Take two modules, an app and a library that the app depends on, each with types of its own. Sessions
of both are opened, process rounds and are closed in any order; after every round a session writes
its whole registry to the file of its module. In this registry there are also the entries that the
session found when it was opened, those of the library included. So the file of the app has entries
of the library as they were at that time, and since a module's own file is loaded first, they are
what the app finds from then on.

An entry of the library that a freshly opened session of the app finds is therefore of one of two
kinds (`SetterResolution.Project.holds_of_start`). It is in the library's file as it stands, or it
is in the app's own file, and then it was in the library's file in an earlier state. The second kind
is not bounded by what the library has now: when the library is compiled again without a
declaration, an app that has been compiled in the meantime finds it all the same
(`SetterResolution.Project.holds_of_start_outdated`).

The induction over the steps follows the entries of the library from the library's file into the
sessions of the app and from there into the app's file. That what is read from a file is what was
written to it is `SetterResolution.Snapshot.decode_encode`, so snapshots are supposed to have less
than `2 ^ 64` bytes here, too.
-/

namespace SetterResolution

/-! ### Two modules -/

/-- Which of two modules is meant. -/
inductive Member where
  /-- The app, which depends on the library. -/
  | app
  /-- The library. -/
  | lib
  deriving DecidableEq, Repr

/-- An app and the library that it depends on, with their files in one directory. -/
structure Project where
  /-- What depends on what. -/
  graph : ModuleGraph
  /-- The settings of the app. -/
  app : Settings
  /-- The settings of the library. -/
  lib : Settings
  /-- The module that each type is compiled in. -/
  compiles : HostType → Member
  /-- The files of both modules are in one directory and named in one way. -/
  layout_eq : lib.layout = app.layout
  /-- The app sees itself and the library. -/
  loadOrder_eq : graph.loadOrder app.moduleName = [app.moduleName, lib.moduleName]
  /-- The two modules do not have one file. -/
  place_ne : (Path.ofText lib.snapshotPath).names ≠ (Path.ofText app.snapshotPath).names

namespace Project

variable (project : Project)

/-- The settings of a module. -/
def settings : Member → Settings
  | .app => project.app
  | .lib => project.lib

/-- What the file of a module has. -/
def stored (disk : Disk) (member : Member) : Tables :=
  Snapshot.readOrEmpty disk (project.settings member).snapshotPath

/-- The disk and the sessions that are open. -/
structure State where
  /-- The disk. -/
  disk : Disk
  /-- The open sessions, each with its module. -/
  sessions : List (Member × Session)

/-- What can happen next. A round only declares for types of its own module, and it is written to
the file of the module. -/
inductive Step : State → State → Prop
  /-- A session is opened. -/
  | opens {disk : Disk} {sessions : List (Member × Session)} {member : Member}
      {session : Session} :
      Session.start (project.settings member) project.graph disk = .ok session →
      Step ⟨disk, sessions⟩ ⟨disk, (member, session) :: sessions⟩
  /-- A session processes a round. -/
  | processes (before later : List (Member × Session)) {disk after : Disk} {member : Member}
      {session next : Session} {round : Round} {report : Report} :
      (∀ owner ∈ round.owners, project.compiles owner = member) →
      session.process round disk = (next, after, .ok report) →
      (Snapshot.encode next.tables).length < 2 ^ 64 →
      Step ⟨disk, before ++ (member, session) :: later⟩ ⟨after, before ++ (member, next) :: later⟩
  /-- A session is closed. -/
  | closes (before later : List (Member × Session)) {disk : Disk} {closed : Member × Session} :
      Step ⟨disk, before ++ closed :: later⟩ ⟨disk, before ++ later⟩

/-- What can happen in any number of steps. -/
def Run : State → State → Prop :=
  Relation.ReflTransGen project.Step

/-- In some state on the way, the file of the library had the entry. -/
def WasStored (start state : State) (entry : Entry) : Prop :=
  ∃ past, project.Run start past ∧ project.Run past state ∧
    (project.stored past.disk .lib).Holds entry

variable {project} {start state next : State} {entry : Entry} {member : Member}

theorem WasStored.step (h : project.WasStored start state entry) (hstep : project.Step state next) :
    project.WasStored start next entry := by
  obtain ⟨past, hbefore, hafter, hheld⟩ := h
  exact ⟨past, hbefore, hafter.tail hstep, hheld⟩

/-- What the app loads: its own entries, and those of the library under all other keys. -/
theorem lookup?_loadMerged (disk : Disk) (key : EntryKey) :
    (project.app.layout.loadMerged disk project.graph project.app.moduleName).lookup? key =
      ((project.stored disk .app).lookup? key).or ((project.stored disk .lib).lookup? key) := by
  have hlib : project.app.layout.path project.lib.moduleName = project.lib.snapshotPath := by
    rw [Settings.snapshotPath, project.layout_eq]
  rw [Layout.loadMerged, project.loadOrder_eq, List.foldl_cons, List.foldl_cons, List.foldl_nil,
    Tables.lookup?_merge, Tables.lookup?_merge, Tables.lookup?_empty, Option.none_or, hlib]
  rfl

/-! ### Where entries of the library come from -/

variable (project) in
/-- What is known of an open session. -/
structure Traced (start state : State) (member : Member) (session : Session) : Prop where
  /-- It has the settings of its module. -/
  settings : session.settings = project.settings member
  /-- Its tables survive in a file. -/
  reachable : session.registry.Reachable
  /-- In the app it has no entries of the library but such as were in the library's file. -/
  stored : member = .app → ∀ entry, project.compiles entry.owner = .lib →
    session.tables.Holds entry → project.WasStored start state entry

variable (project) in
/-- What is known of every state that is reached. -/
structure Sound (start state : State) : Prop where
  /-- The state is reached. -/
  run : project.Run start state
  /-- All sessions are traced. -/
  sessions : ∀ member session, (member, session) ∈ state.sessions →
    project.Traced start state member session
  /-- The app's file has no entries of the library but such as were in the library's file. -/
  file : ∀ bytes tables,
    state.disk.node? (Path.ofText project.app.snapshotPath).names = some (.file bytes) →
    Snapshot.decode bytes = .ok tables → ∀ entry, project.compiles entry.owner = .lib →
      tables.Holds entry → project.WasStored start state entry

theorem Traced.step {session : Session} (h : project.Traced start state member session)
    (hstep : project.Step state next) : project.Traced start next member session where
  settings := h.settings
  reachable := h.reachable
  stored happ entry howner hheld := (h.stored happ entry howner hheld).step hstep

/-- A session stays traced when it processes a round of its module, as no round of the app declares
anything for the library. -/
theorem Traced.process {session : Session} {round : Round}
    (h : project.Traced start state member session)
    (howners : ∀ owner ∈ round.owners, project.compiles owner = member) :
    project.Traced start state member
      { session with registry := (session.registry.process round).1 } where
  settings := h.settings
  reachable := h.reachable.process round
  stored := by
    rintro rfl entry howner hheld
    rcases Registry.registers_or_holds_of_process hheld with hregisters | ⟨hbefore, -⟩
    · rw [howners _ hregisters.declares.mem_owners] at howner
      cases howner
    · exact h.stored rfl entry howner hbefore

/-- The file of the app after a round: it has what the session has if the round was one of the app,
and is as before if it was one of the library. -/
theorem Traced.file_of_process {session next : Session} {round : Round} {disk after : Disk}
    {report : Report} {bytes : List UInt8} {tables : Tables}
    (h : project.Traced start state member session)
    (hprocess : session.process round disk = (next, after, .ok report))
    (hlength : (Snapshot.encode next.tables).length < 2 ^ 64)
    (hnode : after.node? (Path.ofText project.app.snapshotPath).names = some (.file bytes))
    (hdecode : Snapshot.decode bytes = .ok tables) :
    member = .app ∧ tables = next.tables ∨
      disk.node? (Path.ofText project.app.snapshotPath).names = some (.file bytes) := by
  obtain ⟨rfl, hruns⟩ := Session.runs_of_process hprocess
  have hfile := Disk.file_of_replace hruns hnode
  rw [h.settings] at hfile
  cases member with
  | app =>
    rw [Project.settings, if_pos rfl] at hfile
    subst hfile
    have hkept := Snapshot.decode_encode (h.reachable.process round).regular hlength
    exact Or.inl ⟨rfl, Except.ok.inj (hdecode.symm.trans hkept)⟩
  | lib =>
    rw [Project.settings, if_neg project.place_ne] at hfile
    exact Or.inr hfile

namespace Sound

/-- An entry of the library in the app's file was in the library's file. -/
theorem wasStored (h : project.Sound start state) (howner : project.compiles entry.owner = .lib)
    (hheld : (project.stored state.disk .app).Holds entry) :
    project.WasStored start state entry := by
  obtain ⟨bytes, tables, hnode, hdecode, hheld⟩ := Snapshot.exists_of_holds_readOrEmpty hheld
  exact h.file bytes tables hnode hdecode entry howner hheld

/-- A session that is opened now is traced: the app finds entries of the library in its own file or
in that of the library. -/
theorem traced_of_start {session : Session} (h : project.Sound start state)
    (hopen : Session.start (project.settings member) project.graph state.disk = .ok session) :
    project.Traced start state member session := by
  obtain rfl := Session.eq_of_start hopen
  refine ⟨rfl, Layout.reachable_loadMerged _ _ _ _, ?_⟩
  rintro rfl entry howner hheld
  rw [Tables.holds_iff] at hheld
  rcases Option.or_eq_some_iff.mp ((lookup?_loadMerged _ _).symm.trans hheld) with hown | ⟨-, hlib⟩
  · exact h.wasStored howner (Tables.holds_iff.mpr hown)
  · exact ⟨state, h.run, .refl, Tables.holds_iff.mpr hlib⟩

/-- **Every step keeps the entries of the library traced.** -/
theorem step (h : project.Sound start state) (hstep : project.Step state next) :
    project.Sound start next := by
  have hrun : project.Run start next := h.run.tail hstep
  have hstored {entry : Entry} (hpast : project.WasStored start state entry) :
      project.WasStored start next entry := hpast.step hstep
  have htraced {member : Member} {session : Session}
      (hsession : project.Traced start state member session) :
      project.Traced start next member session := hsession.step hstep
  cases hstep with
  | opens hopen =>
    refine ⟨hrun, fun other found hmem => ?_, fun bytes tables hnode hdecode entry howner hheld =>
      hstored (h.file bytes tables hnode hdecode entry howner hheld)⟩
    rcases List.mem_cons.mp hmem with heq | hmem
    · cases heq
      exact htraced (h.traced_of_start hopen)
    · exact htraced (h.sessions other found hmem)
  | processes before later howners hprocess hlength =>
    -- the session that processes the round is traced before and after it
    have hbefore := h.sessions _ _ (List.mem_append_right _ List.mem_cons_self)
    have hafter := hbefore.process howners
    obtain ⟨hnext, -⟩ := Session.runs_of_process hprocess
    refine ⟨hrun, fun other found hmem => ?_,
      fun bytes tables hnode hdecode entry howner hheld => ?_⟩
    · rcases List.mem_append.mp hmem with hmem | hmem
      · exact htraced (h.sessions other found (List.mem_append_left _ hmem))
      · rcases List.mem_cons.mp hmem with heq | hmem
        · cases heq
          exact htraced (hnext ▸ hafter)
        · exact htraced (h.sessions other found
            (List.mem_append_right _ (List.mem_cons_of_mem _ hmem)))
    · rcases hbefore.file_of_process hprocess hlength hnode hdecode with ⟨rfl, rfl⟩ | hnode
      · exact hstored (hafter.stored rfl entry howner (hnext ▸ hheld))
      · exact hstored (h.file bytes tables hnode hdecode entry howner hheld)
  | closes before later =>
    refine ⟨hrun, fun other found hmem => ?_, fun bytes tables hnode hdecode entry howner hheld =>
      hstored (h.file bytes tables hnode hdecode entry howner hheld)⟩
    rcases List.mem_append.mp hmem with hmem | hmem
    · exact htraced (h.sessions other found (List.mem_append_left _ hmem))
    · exact htraced (h.sessions other found
        (List.mem_append_right _ (List.mem_cons_of_mem _ hmem)))

end Sound

/-- Without a file of the app and without sessions there is nothing to trace. -/
theorem sound_of_no_file {disk : Disk}
    (h : ∀ bytes, disk.node? (Path.ofText project.app.snapshotPath).names ≠ some (.file bytes)) :
    project.Sound ⟨disk, []⟩ ⟨disk, []⟩ where
  run := .refl
  sessions _ _ hmem := by cases hmem
  file bytes _ hnode := absurd hnode (h bytes)

theorem sound_of_run {disk : Disk}
    (h : ∀ bytes, disk.node? (Path.ofText project.app.snapshotPath).names ≠ some (.file bytes))
    (hrun : project.Run ⟨disk, []⟩ state) : project.Sound ⟨disk, []⟩ state := by
  induction hrun with
  | refl => exact sound_of_no_file h
  | tail _ hstep ih => exact ih.step hstep

/-- **What the app finds of the library.** Sessions of an app and of the library that it depends on
have been opened, have processed rounds and have been closed in any order, and at first there was no
file of the app. An entry of the library is then found by a session of the app that is opened now
if, and only if, it is in the app's file, or it is in the library's file and the app's file has
nothing under its key; and if it is in the app's file, it was in the library's file in some state on
the way. -/
theorem holds_of_start {disk after : Disk} {sessions : List (Member × Session)} {session : Session}
    (hnone : ∀ bytes, disk.node? (Path.ofText project.app.snapshotPath).names ≠ some (.file bytes))
    (hrun : project.Run ⟨disk, []⟩ ⟨after, sessions⟩)
    (hopen : Session.start project.app project.graph after = .ok session)
    (howner : project.compiles entry.owner = .lib) :
    (session.tables.Holds entry ↔ (project.stored after .app).Holds entry ∨
      (project.stored after .app).lookup? entry.key = none ∧
        (project.stored after .lib).Holds entry) ∧
    ((project.stored after .app).Holds entry →
      ∃ past, project.Run ⟨disk, []⟩ past ∧ project.Run past ⟨after, sessions⟩ ∧
        (project.stored past.disk .lib).Holds entry) := by
  refine ⟨?_, (sound_of_run hnone hrun).wasStored howner⟩
  obtain rfl := Session.eq_of_start hopen
  rw [Tables.holds_iff, Tables.holds_iff, Tables.holds_iff, ← Option.or_eq_some_iff,
    ← lookup?_loadMerged]
  rfl

/-! ### An entry that stays -/

variable (project) in
/-- The session of a module that is opened on a disk. -/
def opened (disk : Disk) (member : Member) : Session :=
  Session.withTables (project.settings member) ((project.settings member).layout.loadMerged disk
    project.graph (project.settings member).moduleName)

variable (project) in
/-- The disk after a session of a module that is opened, processes one round and is closed. -/
def compile (disk : Disk) (member : Member) (round : Round) : Disk :=
  ((project.opened disk member).process round disk).2.1

/-- A session that is opened, processes one round and is closed is three steps. -/
theorem run_compile {disk : Disk} (member : Member) (round : Round)
    (hvalid : (project.settings member).validate = .ok ())
    (howners : ∀ owner ∈ round.ownerList, project.compiles owner = member)
    (hwritten : ((project.opened disk member).process round disk).2.2.isOk = true ∧
      (Snapshot.encode
        ((project.opened disk member).process round disk).1.tables).length < 2 ^ 64) :
    project.Run ⟨disk, []⟩ ⟨project.compile disk member round, []⟩ := by
  have hopen : project.Step ⟨disk, []⟩ ⟨disk, [(member, project.opened disk member)]⟩ :=
    .opens (Session.start_of_validate hvalid _ _)
  obtain ⟨report, hprocess⟩ := Session.exists_report hwritten.1
  have hround : project.Step ⟨disk, [(member, project.opened disk member)]⟩
      ⟨project.compile disk member round,
        [(member, ((project.opened disk member).process round disk).1)]⟩ :=
    .processes [] [] (fun owner howner => howners owner (Round.mem_owners_iff.mp howner)) hprocess
      hwritten.2
  exact ((Relation.ReflTransGen.refl.tail hopen).tail hround).tail (.closes [] [])

/-- An app and a library with one type. -/
def sample : Project where
  graph := ModuleGraph.empty.addDependency "app" "lib"
  app := { moduleName := "app", snapshotSuffix := ".bin" }
  lib := { moduleName := "lib", snapshotSuffix := ".bin" }
  compiles type := if type = .named "Library" then .lib else .app
  layout_eq := rfl
  loadOrder_eq := by decide +kernel
  place_ne := by decide +kernel

/-- An adapter for one attribute, declared by a type. -/
def sampleRound (owner written : String) : Round where
  adapters := [⟨[written], ⟨⟨.named owner, "bind", [.named "View", .named "String"], none, true,
    true, lowestPlatform⟩, .ofElement owner⟩⟩]

/-- The library is compiled with an adapter, and then the app is compiled. -/
def sampleEarlier : Disk :=
  sample.compile (sample.compile .empty .lib (sampleRound "Library" "app:hint")) .app
    (sampleRound "Activity" "app:text")

/-- Then the library is compiled with another adapter in place of the first. -/
def sampleLater : Disk :=
  sample.compile sampleEarlier .lib (sampleRound "Library" "app:tint")

theorem run_sampleLater : sample.Run ⟨.empty, []⟩ ⟨sampleLater, []⟩ := by
  have hlib : sample.Run ⟨.empty, []⟩ _ :=
    run_compile .lib (sampleRound "Library" "app:hint") rfl (by decide +kernel) (by decide +kernel)
  have happ : sample.Run _ ⟨sampleEarlier, []⟩ :=
    run_compile .app (sampleRound "Activity" "app:text") rfl (by decide +kernel) (by decide +kernel)
  have hagain : sample.Run _ ⟨sampleLater, []⟩ :=
    run_compile .lib (sampleRound "Library" "app:tint") rfl (by decide +kernel) (by decide +kernel)
  exact (hlib.trans happ).trans hagain

/-- The adapter that the library has no longer. -/
def sampleEntry : Entry :=
  .adapter ⟨"hint"⟩ ⟨.named "View", .named "String"⟩ ⟨.named "Library", "bind"⟩

/-- What a session of the app that is opened last finds of that adapter. -/
theorem holds_of_start_sample :
    (∀ bytes, Disk.empty.node? (Path.ofText sample.app.snapshotPath).names ≠ some (.file bytes)) ∧
      sample.Run ⟨.empty, []⟩ ⟨sampleLater, []⟩ ∧
      Session.start sample.app sample.graph sampleLater = .ok (sample.opened sampleLater .app) ∧
      sample.compiles sampleEntry.owner = .lib ∧
      ((sample.opened sampleLater .app).tables.Holds sampleEntry ↔
        (sample.stored sampleLater .app).Holds sampleEntry ∨
          (sample.stored sampleLater .app).lookup? sampleEntry.key = none ∧
            (sample.stored sampleLater .lib).Holds sampleEntry) ∧
      ((sample.stored sampleLater .app).Holds sampleEntry →
        ∃ past, sample.Run ⟨.empty, []⟩ past ∧ sample.Run past ⟨sampleLater, []⟩ ∧
          (sample.stored past.disk .lib).Holds sampleEntry) := by
  have hplace : Disk.empty.node? (Path.ofText sample.app.snapshotPath).names = none := by
    decide +kernel
  have hnone (bytes : List UInt8) :
      Disk.empty.node? (Path.ofText sample.app.snapshotPath).names ≠ some (.file bytes) := by
    rw [hplace]
    intro h
    cases h
  have hopen : Session.start sample.app sample.graph sampleLater =
      .ok (sample.opened sampleLater .app) := Session.start_of_validate rfl _ _
  have howner : sample.compiles sampleEntry.owner = .lib := by decide
  have hfinds := holds_of_start hnone run_sampleLater hopen howner
  exact ⟨hnone, run_sampleLater, hopen, howner, hfinds⟩

/-- The library has been compiled without the adapter, and a session of the app that is opened
afterwards finds it all the same. -/
theorem holds_of_start_outdated :
    sample.Run ⟨.empty, []⟩ ⟨sampleLater, []⟩ ∧
      Session.start sample.app sample.graph sampleLater = .ok (sample.opened sampleLater .app) ∧
      sample.compiles sampleEntry.owner = .lib ∧
      (sample.opened sampleLater .app).tables.Holds sampleEntry ∧
      ¬ (sample.stored sampleLater .lib).Holds sampleEntry := by
  refine ⟨run_sampleLater, Session.start_of_validate rfl _ _, by decide, ?_, ?_⟩
  · decide +kernel
  · decide +kernel

end Project

end SetterResolution
