import SetterResolution.Registry.Round
import SetterResolution.Resolution.Group
import SetterResolution.Settings

/-!
# Sessions

A session compiles one module. It opens with the entries of all snapshot files that the module sees,
processes rounds, writes the module's own file after each of them, and answers resolutions in
between. When a file cannot be written, the round is processed all the same.
-/

namespace SetterResolution

/-- The registry of a compilation. -/
structure Session where
  /-- The settings of the compilation. -/
  settings : Settings
  /-- The registry. -/
  registry : Registry

namespace Session

/-- What is said when a session does not open. -/
def openMessage (error : SettingsError) : String :=
  "configuration error: " ++ error.message

/-- A session with given entries. -/
def withTables (settings : Settings) (tables : Tables) : Session where
  settings := settings
  registry := .ofTables tables

/-- Opens a session for the module of the settings. -/
def start (settings : Settings) (graph : ModuleGraph) (disk : Disk) :
    Except SettingsError Session := do
  settings.validate
  return withTables settings (settings.layout.loadMerged disk graph settings.moduleName)

/-- The entries of a session. -/
def tables (session : Session) : Tables :=
  session.registry.tables

/-- Processes a round and writes the module's file. Gives the session and the disk afterwards, and
what is said about the round unless the file could not be written. -/
def process (session : Session) (round : Round) (disk : Disk) :
    Session × Disk × Except FileError Report :=
  let (registry, report) := session.registry.process round
  let write := Snapshot.write session.settings.snapshotPath registry.tables
  let (written, disk) := StateT.run (ExceptT.run write) disk
  ({ session with registry }, disk, written.map fun _ => report)

/-- What resolutions of a session look at. -/
def context (session : Session) (hierarchy : Hierarchy) (imports : Imports) : Context where
  tables := session.tables
  hierarchy := hierarchy
  imports := imports
  minApi := session.settings.minPlatform

end Session

end SetterResolution
