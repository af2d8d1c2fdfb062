import SetterResolution.Method
import SetterResolution.Snapshot.Layout
import SetterResolution.Text.Blank
import SetterResolution.Toml.Document

/-!
# Settings

The settings of a compilation: which module is compiled, where the snapshot files of all modules lie
and which platform version calls need at least. They are read from a TOML document, in which
everything may be missing but the name of the module.
-/

namespace SetterResolution

/-- The settings of a compilation. -/
structure Settings where
  /-- The name of the module that is compiled. -/
  moduleName : String := ""
  /-- The directory of the snapshot files. -/
  outputDir : String := "."
  /-- What is appended to the name of a module for the name of its file. -/
  snapshotSuffix : String := Snapshot.defaultSuffix
  /-- The platform version of calls that do not take one from a method. -/
  minPlatform : UInt32 := lowestPlatform
  deriving DecidableEq, Repr

/-- Why there are no settings. -/
inductive SettingsError where
  /-- The file could not be read, or is not UTF-8. -/
  | unreadable
  /-- The document is not TOML, or a setting has a value of another kind. -/
  | malformed
  /-- The module has no name. -/
  | missingModuleName
  deriving DecidableEq, Repr

/-- What is said when there are no settings. -/
def SettingsError.message : SettingsError → String
  | unreadable => "cannot read settings"
  | malformed => "invalid configuration"
  | missingModuleName => "module_name must not be empty"

namespace Settings

/-- Checks that the module has a name that is not blank. -/
def validate (settings : Settings) : Except SettingsError Unit :=
  if Text.isAllBlank settings.moduleName then .error .missingModuleName else .ok ()

/-- Where the snapshot files lie. -/
def layout (settings : Settings) : Layout where
  directory := settings.outputDir
  suffix := settings.snapshotSuffix

/-- The path of the module's own snapshot file. -/
def snapshotPath (settings : Settings) : String :=
  settings.layout.path settings.moduleName

/-! ### Reading settings -/

/-- The text under a name, the default if there is none. -/
def textAt (entries : Toml.Entries) (name default : String) : Except SettingsError String :=
  match entries.lookup name with
  | none => .ok default
  | some (.value (.text text)) => .ok text
  | some _ => .error .malformed

/-- The platform version under a name, the default if there is none. -/
def versionAt (entries : Toml.Entries) (name : String) (default : UInt32) :
    Except SettingsError UInt32 :=
  match entries.lookup name with
  | none => .ok default
  | some (.value (.integer n)) =>
    if 0 ≤ n ∧ n.toNat < UInt32.size then .ok (UInt32.ofNat n.toNat) else .error .malformed
  | some _ => .error .malformed

/-- The settings of a table, where what is missing is as in `default`. Other names are ignored. -/
def ofEntries (entries : Toml.Entries) : Except SettingsError Settings := do
  let default : Settings := {}
  return {
    moduleName := ← textAt entries "module_name" default.moduleName
    outputDir := ← textAt entries "output_dir" default.outputDir
    snapshotSuffix := ← textAt entries "snapshot_suffix" default.snapshotSuffix
    minPlatform := ← versionAt entries "min_platform_version" default.minPlatform }

/-- The settings of a TOML document. -/
def ofToml (document : String) : Except SettingsError Settings := do
  match Toml.parse document with
  | none => throw .malformed
  | some entries =>
    let settings ← ofEntries entries
    settings.validate
    return settings

/-- The settings in the file at a path. -/
def load (disk : Disk) (path : String) : Except SettingsError Settings :=
  match disk.read path with
  | .error _ => .error .unreadable
  | .ok bytes =>
    match Text.Utf8.decode bytes with
    | .error _ => .error .unreadable
    | .ok document => ofToml document

end Settings

end SetterResolution
