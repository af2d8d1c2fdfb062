import SetterResolution.Disk
import SetterResolution.ModuleGraph
import SetterResolution.Snapshot.Basic

/-!
# Snapshot files

Every module keeps its registry in a file of its own; all these files lie in one directory. A module
sees the tables of its own file and those of the modules that it depends on, merged in load order,
so that nearer modules win. Files that are missing or cannot be read count as empty.
-/

namespace SetterResolution

namespace Snapshot

/-- Why a snapshot file could not be read. -/
inductive FileFault where
  /-- The file could not be read. -/
  | file (error : FileError)
  /-- The file is no snapshot. -/
  | content (error : Snapshot.Error)
  deriving DecidableEq, Repr

/-- The tables in the file at a path; none if there is no file. -/
def read (disk : Disk) (path : String) : Except FileFault (Option Tables) :=
  match disk.read path with
  | .ok bytes =>
    match decode bytes with
    | .ok tables => .ok (some tables)
    | .error error => .error (.content error)
  | .error .notFound => .ok none
  | .error error => .error (.file error)

/-- The tables in the file at a path; no entries if the file is missing or cannot be read. -/
def readOrEmpty (disk : Disk) (path : String) : Tables :=
  match read disk path with
  | .ok (some tables) => tables
  | _ => .empty

/-- Writes tables to a file. -/
def write (path : String) (tables : Tables) : Disk.Action Unit :=
  Disk.replace path (encode tables)

/-- What is appended to the name of a module for the name of its file, unless settings say
otherwise. -/
def defaultSuffix : String := "-setter_store.bin"

end Snapshot

/-- Where the snapshot files of modules lie. -/
structure Layout where
  /-- The directory of the files. -/
  directory : String := "."
  /-- What is appended to the name of a module. -/
  suffix : String := Snapshot.defaultSuffix
  deriving DecidableEq, Repr

namespace Layout

/-- The path of the file of a module. -/
def path (layout : Layout) (name : String) : String :=
  Path.join layout.directory (name ++ layout.suffix)

/-- The entries that a module sees. -/
def loadMerged (layout : Layout) (disk : Disk) (graph : ModuleGraph) (name : String) : Tables :=
  (graph.loadOrder name).foldl
    (fun tables name => tables.merge (Snapshot.readOrEmpty disk (layout.path name))) .empty

end Layout

end SetterResolution
