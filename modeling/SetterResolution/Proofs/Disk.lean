import SetterResolution.Disk

/-!
# What a replaced file leaves on the disk

A file is replaced in three steps: the directories that lead to it are made, its bytes are written
under another name, and that name then becomes the path. When all of them succeed, the bytes stand
at the path, and every other file that stands anywhere stood there before
(`SetterResolution.Disk.file_of_replace`). This is said about places rather than about what can be
read: a place may hold a file that no path leads to.

The path itself leads to its file again (`SetterResolution.Disk.read_of_replace`). A file is only
put where a walk from the top comes past directories, and these stay where they are: what is taken
away when the file gets its name is a file, and it does not stand on the way.
-/

namespace SetterResolution.Disk

variable {α β : Type} {before after : Disk} {path : String} {bytes : List UInt8}

/-! ### Operations that succeed -/

/-- The operation succeeds and leads from one disk to another. -/
def Runs (action : Action α) (before : Disk) (a : α) (after : Disk) : Prop :=
  StateT.run (ExceptT.run action) before = (.ok a, after)

/-- Of two operations in a row each succeeds. -/
theorem runs_bind {action : Action α} {next : α → Action β} {b : β}
    (h : Runs (action >>= next) before b after) :
    ∃ a between, Runs action before a between ∧ Runs (next a) between b after := by
  have hstep : StateT.run (ExceptT.run (action >>= next)) before =
      match StateT.run (ExceptT.run action) before with
      | (.ok a, between) => StateT.run (ExceptT.run (next a)) between
      | (.error error, between) => (.error error, between) := by
    rw [ExceptT.run_bind, StateT.run_bind]
    rcases StateT.run (ExceptT.run action) before with ⟨_ | _, between⟩ <;> rfl
  rw [Runs, hstep] at h
  rcases hrun : StateT.run (ExceptT.run action) before with ⟨error | a, between⟩
  · rw [hrun] at h
    cases h
  · rw [hrun] at h
    exact ⟨a, between, hrun, h⟩

/-- What looks at the disk first is told what it is. -/
theorem runs_get_bind {next : Disk → Action β} {b : β} (h : Runs (get >>= next) before b after) :
    Runs (next before) before b after := by
  obtain ⟨found, between, hget, hnext⟩ := runs_bind h
  cases hget
  exact hnext

theorem runs_liftExcept {result : Except FileError α} {a : α}
    (h : Runs (write.liftExcept result) before a after) : result = .ok a ∧ after = before := by
  cases result with
  | error error => cases h
  | ok found =>
    cases h
    exact ⟨rfl, rfl⟩

theorem not_runs_throw {error : FileError} {a : α} :
    ¬ Runs (throw error : Action α) before a after := by
  intro h
  cases h

/-- What is only done if a check does not fail. -/
theorem runs_guard {c : Prop} [Decidable c] {error : FileError} {next : Unit → Action β} {b : β}
    (h : Runs (if c then throw error >>= next else next ()) before b after) :
    Runs (next ()) before b after := by
  split at h
  · obtain ⟨found, between, hthrow, -⟩ := runs_bind h
    exact absurd hthrow not_runs_throw
  · exact h

/-! ### No new files -/

/-- Every file that stands anywhere on one disk stands there on another. -/
def FilesFrom (before after : Disk) : Prop :=
  ∀ names bytes, after.node? names = some (.file bytes) → before.node? names = some (.file bytes)

theorem FilesFrom.refl (disk : Disk) : FilesFrom disk disk :=
  fun _ _ => id

theorem FilesFrom.trans {between : Disk} (h : FilesFrom before between)
    (hnext : FilesFrom between after) : FilesFrom before after :=
  fun names bytes hfile => h names bytes (hnext names bytes hfile)

/-- What stands on a disk on which something was put. -/
theorem node?_insert (disk : Disk) {names : List String} (node : Node) (other : List String)
    (h : names ≠ []) :
    node? { disk with nodes := disk.nodes.insert names node } other =
      if names = other then some node else disk.node? other := by
  rw [node?, node?, Std.ExtTreeMap.getElem?_insert]
  simp only [Std.compare_eq_iff_eq]
  by_cases hother : names = other
  · subst hother
    rw [if_neg h, if_pos rfl, if_pos rfl]
  · rw [if_neg hother, if_neg hother]

/-- What is taken from a place stands nowhere else. -/
theorem node?_erase_of_ne (disk : Disk) {names other : List String} (h : names ≠ other) :
    node? { disk with nodes := disk.nodes.erase names } other = disk.node? other := by
  rw [node?, node?, Std.ExtTreeMap.getElem?_erase]
  simp only [Std.compare_eq_iff_eq]
  rw [if_neg h]

/-- No file stands where one was taken from. -/
theorem ne_of_node?_erase {disk : Disk} {names other : List String}
    (h : node? { disk with nodes := disk.nodes.erase names } other = some (.file bytes)) :
    names ≠ other := by
  rintro rfl
  rw [node?] at h
  split at h
  · cases h
  · simp at h

theorem filesFrom_makeDirectory {here : List String} {name : String}
    (h : Runs (makeDirectory here name) before () after) : FilesFrom before after := by
  rw [makeDirectory] at h
  have hmake := runs_get_bind (runs_guard h)
  split at hmake
  · cases hmake
    exact .refl _
  · exact absurd hmake not_runs_throw
  · cases hmake
    intro names bytes hfile
    rw [node?_insert _ _ _ (by simp)] at hfile
    split at hfile
    · cases hfile
    · exact hfile

theorem filesFrom_makeAlong {here names : List String}
    (h : Runs (makeAlong here names) before () after) : FilesFrom before after := by
  induction names generalizing here before with
  | nil =>
    cases h
    exact .refl _
  | cons name rest ih =>
    obtain ⟨_, between, hfirst, hrest⟩ := runs_bind h
    exact (filesFrom_makeDirectory hfirst).trans (ih hrest)

/-- Making directories makes no files. -/
theorem filesFrom_makeParents (h : Runs (makeParents path) before () after) :
    FilesFrom before after := by
  rw [makeParents, makeDirectories] at h
  have hmake := runs_guard h
  split at hmake
  · obtain ⟨_, between, halong, hrest⟩ := runs_bind hmake
    have hcheck := runs_get_bind hrest
    split at hcheck
    · cases hcheck
      exact filesFrom_makeAlong halong
    · exact absurd hcheck not_runs_throw
    · exact absurd hcheck not_runs_throw
  · exact filesFrom_makeAlong hmake

/-! ### Writing and renaming -/

/-- What a path is like that a file can be put at: it has a last name, and what comes before leads
to a directory. -/
structure Slot (disk : Disk) (path : String) (front : List String) (name : String) : Prop where
  /-- The path can be given. -/
  isText : Path.isText path = true
  /-- The path is not empty. -/
  ne_empty : path ≠ ""
  /-- The path does not name a directory by its form. -/
  isFile : (Path.ofText path).isDirectory = false
  /-- The path ends in the name. -/
  names : (Path.ofText path).names = front ++ [name]
  /-- A directory is there for the file. -/
  walk : disk.walk [] front = .ok .directory
  /-- A file can have the name. -/
  isName : isName name = true

/-- A file is put where its path leads to. -/
theorem fileSlot_eq_ok {disk : Disk} {names : List String} (h : disk.fileSlot path = .ok names) :
    ∃ front name, names = front ++ [name] ∧ disk.Slot path front name := by
  rw [fileSlot] at h
  split at h
  · cases h
  next htext =>
  split at h
  · cases h
  next hempty =>
  dsimp only at h
  split at h
  · cases h
  next name hlast =>
  obtain ⟨front, hnames⟩ := List.getLast?_eq_some_iff.mp hlast
  rw [hnames, List.dropLast_concat] at h
  split at h
  · cases h
  · cases h
  next hwalk =>
  split at h
  · cases h
  next hname =>
  split at h
  · cases h
  next hfile =>
  split at h
  · cases h
  · cases h
    exact ⟨front, name, rfl, by simpa using htext, hempty, by simpa using hfile, hnames, hwalk,
      by simpa using hname⟩

theorem names_of_fileSlot {disk : Disk} {names : List String}
    (h : disk.fileSlot path = .ok names) : names = (Path.ofText path).names ∧ names ≠ [] := by
  obtain ⟨front, name, rfl, hslot⟩ := fileSlot_eq_ok h
  exact ⟨hslot.names.symm, List.append_ne_nil_of_right_ne_nil front (List.cons_ne_nil _ _)⟩

theorem node?_of_walk {disk : Disk} {here names : List String} {node : Node}
    (h : disk.walk here names = .ok node) : disk.node? (here ++ names) = some node := by
  induction names generalizing here with
  | nil =>
    rw [walk] at h
    rw [List.append_nil]
    split at h
    next found hfound =>
      cases h
      exact hfound
    · cases h
  | cons name rest ih =>
    rw [walk] at h
    split at h
    · split at h
      · rw [← ih h, List.append_assoc]
        rfl
      · cases h
    · cases h
    · cases h

/-- A walk comes to what stands at its end, as long as the directories on the way are kept. -/
theorem walk_concat {disk other : Disk} {here front : List String} {name : String} {node : Node}
    (hwalk : disk.walk here front = .ok .directory) (hname : isName name = true)
    (hkept : ∀ place, place ≠ here ++ (front ++ [name]) →
      disk.node? place = some .directory → other.node? place = some .directory)
    (hnode : other.node? (here ++ (front ++ [name])) = some node) :
    other.walk here (front ++ [name]) = .ok node := by
  -- the place that a step is taken from is not the end
  have hhere : disk.node? here = some .directory → other.node? here = some .directory :=
    hkept here (by simp)
  induction front generalizing here with
  | nil =>
    rw [walk] at hwalk
    split at hwalk
    next found hfound =>
      cases hwalk
      rw [List.nil_append] at hnode ⊢
      rw [walk, hhere hfound]
      dsimp only
      rw [if_pos hname, walk, hnode]
    · cases hwalk
  | cons first rest ih =>
    rw [walk] at hwalk
    split at hwalk
    next hfound =>
      split at hwalk
      next hfirst =>
        have hassoc : here ++ (first :: rest ++ [name]) = here ++ [first] ++ (rest ++ [name]) := by
          simp
        rw [hassoc] at hkept hnode
        rw [List.cons_append, walk, hhere hfound]
        dsimp only
        rw [if_pos hfirst]
        exact ih hwalk hkept hnode (hkept _ (by simp))
      · cases hwalk
    · cases hwalk
    · cases hwalk

/-- What is read stands where the path leads to. -/
theorem node?_of_read {disk : Disk} (h : disk.read path = .ok bytes) :
    disk.node? (Path.ofText path).names = some (.file bytes) := by
  rw [read] at h
  split at h
  next found hfind =>
    cases h
    rw [find] at hfind
    split at hfind
    · cases hfind
    split at hfind
    · cases hfind
    split at hfind
    next bytes hwalk =>
      split at hfind
      · cases hfind
      · cases hfind
        exact node?_of_walk hwalk
    · exact node?_of_walk hfind
  · cases h
  · cases h

/-- A path leads to the file that was put where it leads to, as long as directories are kept. -/
theorem read_of_fileSlot {disk other : Disk} {names : List String}
    (h : disk.fileSlot path = .ok names)
    (hkept : ∀ place, place ≠ names →
      disk.node? place = some .directory → other.node? place = some .directory)
    (hfile : other.node? names = some (.file bytes)) : other.read path = .ok bytes := by
  obtain ⟨front, name, rfl, hslot⟩ := fileSlot_eq_ok h
  have hwalk : other.walk [] (Path.ofText path).names = .ok (.file bytes) := by
    rw [hslot.names]
    exact walk_concat hslot.walk hslot.isName hkept hfile
  rw [read, find, hslot.isText, if_neg (by decide), if_neg hslot.ne_empty, hwalk, hslot.isFile]
  rfl

/-- What is written is put where its path leads to. -/
theorem runs_write (h : Runs (write path bytes) before () after) :
    before.fileSlot path = .ok (Path.ofText path).names ∧
      after = { before with
        nodes := before.nodes.insert (Path.ofText path).names (.file bytes) } := by
  rw [write] at h
  obtain ⟨slot, between, hlift, hput⟩ := runs_bind (runs_get_bind h)
  obtain ⟨hslot, rfl⟩ := runs_liftExcept hlift
  obtain ⟨rfl, -⟩ := names_of_fileSlot hslot
  cases hput
  exact ⟨hslot, rfl⟩

theorem node?_of_write (h : Runs (write path bytes) before () after) (names : List String) :
    after.node? names =
      if (Path.ofText path).names = names then some (.file bytes) else before.node? names := by
  obtain ⟨hslot, rfl⟩ := runs_write h
  exact node?_insert _ _ _ (names_of_fileSlot hslot).2

/-- What is written to a path is read from it. -/
theorem read_of_write (h : Runs (write path bytes) before () after) :
    after.read path = .ok bytes := by
  refine read_of_fileSlot (runs_write h).1 (fun place hplace hnode => ?_) ?_
  · rw [node?_of_write h, if_neg (Ne.symm hplace), hnode]
  · rw [node?_of_write h, if_pos rfl]

section Rename

variable {source target : String}

/-- What is moved is taken from its old place and put where its new path leads to. -/
theorem runs_rename (h : Runs (rename source target) before () after) :
    ∃ bytes, before.read source = .ok bytes ∧
      before.fileSlot target = .ok (Path.ofText target).names ∧
      after = { before with
        nodes := (before.nodes.erase (Path.ofText source).names).insert
          (Path.ofText target).names (.file bytes) } := by
  rw [rename] at h
  obtain ⟨bytes, between, hlift, hrest⟩ := runs_bind (runs_get_bind h)
  obtain ⟨hread, rfl⟩ := runs_liftExcept hlift
  obtain ⟨slot, between, hlift, hput⟩ := runs_bind (runs_get_bind hrest)
  obtain ⟨hslot, rfl⟩ := runs_liftExcept hlift
  obtain ⟨rfl, -⟩ := names_of_fileSlot hslot
  cases hput
  exact ⟨bytes, hread, hslot, rfl⟩

/-- Moving a file takes it from its old place to the new one. -/
theorem node?_of_rename (h : Runs (rename source target) before () after) {names : List String}
    {found : List UInt8} (hfile : after.node? names = some (.file found)) :
    if (Path.ofText target).names = names then before.read source = .ok found
    else (Path.ofText source).names ≠ names ∧ before.node? names = some (.file found) := by
  obtain ⟨bytes, hread, hslot, rfl⟩ := runs_rename h
  have hnode := node?_insert
    { before with nodes := before.nodes.erase (Path.ofText source).names } (.file bytes) names
    (names_of_fileSlot hslot).2
  have hfound := hnode.symm.trans hfile
  split at hfound
  next hself =>
    cases hfound
    rw [if_pos hself]
    exact hread
  next hother =>
    have hne := ne_of_node?_erase hfound
    rw [node?_erase_of_ne _ hne] at hfound
    rw [if_neg hother]
    exact ⟨hne, hfound⟩

/-- What is read from a path was read from the path that it had before it was moved. -/
theorem read_of_rename (h : Runs (rename source target) before () after) :
    after.read target = before.read source := by
  obtain ⟨bytes, hread, hslot, rfl⟩ := runs_rename h
  have hnode (names : List String) := node?_insert
    { before with nodes := before.nodes.erase (Path.ofText source).names } (.file bytes) names
    (names_of_fileSlot hslot).2
  rw [hread]
  refine read_of_fileSlot hslot (fun place hplace hdirectory => ?_) ((hnode _).trans (if_pos rfl))
  -- a file was moved, so that no directory is gone
  have hne : (Path.ofText source).names ≠ place := by
    rintro rfl
    rw [node?_of_read hread] at hdirectory
    cases hdirectory
  rw [hnode, if_neg (Ne.symm hplace), node?_erase_of_ne _ hne, hdirectory]

end Rename

/-- **A file that was replaced has its new bytes**, and its path leads to it. -/
theorem read_of_replace (h : Runs (replace path bytes) before () after) :
    after.read path = .ok bytes := by
  rw [replace] at h
  obtain ⟨_, made, -, hrest⟩ := runs_bind h
  obtain ⟨_, written, hwrite, hrename⟩ := runs_bind hrest
  rw [read_of_rename hrename, read_of_write hwrite]

/-- **Of all files only the replaced one is new**, and it has the bytes that it was replaced by. -/
theorem file_of_replace (h : Runs (replace path bytes) before () after) {names : List String}
    {found : List UInt8} (hfile : after.node? names = some (.file found)) :
    if (Path.ofText path).names = names then found = bytes
    else before.node? names = some (.file found) := by
  rw [replace] at h
  obtain ⟨_, made, hparents, hrest⟩ := runs_bind h
  obtain ⟨_, written, hwrite, hrename⟩ := runs_bind hrest
  have hmoved := node?_of_rename hrename hfile
  split at hmoved
  next hself =>
    -- what is moved there is what was just written
    have hwritten := node?_of_read hmoved
    rw [node?_of_write hwrite, if_pos rfl] at hwritten
    rw [if_pos hself]
    cases hwritten
    rfl
  next hother =>
    rw [node?_of_write hwrite, if_neg hmoved.1] at hmoved
    rw [if_neg hother]
    exact filesFrom_makeParents hparents _ _ hmoved.2

end SetterResolution.Disk
