import SetterResolution.Proofs.Disk
import SetterResolution.Proofs.Snapshot.Reachable
import SetterResolution.Session

/-!
# Sessions and the files of modules

A session is opened with what the files of several modules have, and after a round it replaces the
file of its own module. A file that is missing or damaged has no entries, so an entry that is found
comes from bytes that stand on the disk (`SetterResolution.Snapshot.exists_of_holds_readOrEmpty`).
The registry of a session is one that operations could have made
(`SetterResolution.Layout.reachable_loadMerged`), and so its tables survive in the file that they
are written to.
-/

namespace SetterResolution

theorem Tables.not_holds_empty (entry : Entry) : ¬ Tables.empty.Holds entry := by
  rw [holds_iff, lookup?_empty]
  intro h
  cases h

namespace Snapshot

variable {disk : Disk} {path : String}

/-- The tables of a file are none, or what its bytes decode to. -/
theorem readOrEmpty_cases (disk : Disk) (path : String) :
    readOrEmpty disk path = .empty ∨
      ∃ bytes, disk.read path = .ok bytes ∧ decode bytes = .ok (readOrEmpty disk path) := by
  cases hread : disk.read path with
  | error error => cases error <;> exact Or.inl (by rw [readOrEmpty, read, hread])
  | ok bytes =>
    cases hdecode : decode bytes with
    | error error =>
      refine Or.inl ?_
      rw [readOrEmpty, read, hread]
      dsimp only
      rw [hdecode]
    | ok tables =>
      refine Or.inr ⟨bytes, rfl, ?_⟩
      rw [readOrEmpty, read, hread]
      dsimp only
      rw [hdecode]

/-- An entry that is found in a file is one of the tables that its bytes decode to. -/
theorem exists_of_holds_readOrEmpty {entry : Entry} (h : (readOrEmpty disk path).Holds entry) :
    ∃ bytes tables, disk.node? (Path.ofText path).names = some (.file bytes) ∧
      decode bytes = .ok tables ∧ tables.Holds entry := by
  rcases readOrEmpty_cases disk path with hempty | ⟨bytes, hread, hdecode⟩
  · rw [hempty] at h
    exact absurd h (Tables.not_holds_empty entry)
  · exact ⟨bytes, _, Disk.node?_of_read hread, hdecode, h⟩

end Snapshot

/-- What a module loads is what the tables of files make of a registry without entries. -/
theorem Layout.reachable_loadMerged (layout : Layout) (disk : Disk) (graph : ModuleGraph)
    (name : String) : (Registry.ofTables (layout.loadMerged disk graph name)).Reachable := by
  have hmerge {tables : Tables} (names : List String) (h : (Registry.ofTables tables).Reachable) :
      (Registry.ofTables (names.foldl (fun tables name =>
        tables.merge (Snapshot.readOrEmpty disk (layout.path name))) tables)).Reachable := by
    induction names generalizing tables with
    | nil => exact h
    | cons name rest ih =>
      refine ih ?_
      rcases Snapshot.readOrEmpty_cases disk (layout.path name) with hempty | ⟨bytes, -, hdecode⟩
      · dsimp only
        rw [hempty]
        exact h.merge .empty
      · exact h.load hdecode
  exact hmerge _ .empty

namespace Session

theorem eq_of_start {settings : Settings} {graph : ModuleGraph} {disk : Disk} {session : Session}
    (h : start settings graph disk = .ok session) :
    session = withTables settings (settings.layout.loadMerged disk graph settings.moduleName) := by
  rw [start] at h
  cases hvalid : settings.validate with
  | error error =>
    rw [hvalid] at h
    cases h
  | ok =>
    rw [hvalid] at h
    cases h
    rfl

theorem start_of_validate {settings : Settings} (h : settings.validate = .ok ())
    (graph : ModuleGraph) (disk : Disk) :
    start settings graph disk = .ok
      (withTables settings (settings.layout.loadMerged disk graph settings.moduleName)) := by
  rw [start, h]
  rfl

/-- A round that could be written has a report. -/
theorem exists_report {outcome : Session × Disk × Except FileError Report}
    (h : outcome.2.2.isOk = true) :
    ∃ report, outcome = (outcome.1, outcome.2.1, .ok report) := by
  obtain ⟨next, after, result⟩ := outcome
  cases result with
  | error error => cases h
  | ok report => exact ⟨report, rfl⟩

/-- A round that is processed and written leaves the file of the module replaced. -/
theorem runs_of_process {session next : Session} {round : Round} {disk after : Disk}
    {report : Report} (h : session.process round disk = (next, after, .ok report)) :
    next = { session with registry := (session.registry.process round).1 } ∧
      Disk.Runs (Snapshot.write session.settings.snapshotPath next.tables) disk () after := by
  rw [process] at h
  generalize session.registry.process round = processed at h ⊢
  obtain ⟨registry, said⟩ := processed
  dsimp only at h ⊢
  -- the file is written with the registry after the round
  generalize hrun : StateT.run (ExceptT.run (Snapshot.write _ _)) disk = outcome at h
  obtain ⟨result, found⟩ := outcome
  cases result with
  | error error => cases h
  | ok =>
    cases h
    exact ⟨rfl, hrun⟩

end Session

end SetterResolution
