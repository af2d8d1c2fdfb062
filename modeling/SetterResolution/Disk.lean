import Std.Data.ExtTreeMap

/-!
# Disks

The files and directories below one directory, as far as settings and snapshots need them: reading a
file, creating directories, writing a file and renaming it. Operations keep to the rules of a file
system in which a path names a file only if every name before the last is that of a directory, and
in which a path that ends in `/` or `.` names a directory.

An operation may fail after it changed something; the changes stay.
-/

namespace SetterResolution

open Std (ExtTreeMap)

/-- A path, taken apart into its names. -/
structure Path where
  /-- The names, without empty ones and `.`. -/
  names : List String
  /-- Whether the path names a directory by its form. -/
  isDirectory : Bool
  deriving DecidableEq, Repr

namespace Path

/-- The parts of a text between slashes. -/
def pieces : List Char → List (List Char)
  | [] => [[]]
  | c :: rest =>
    if c = '/' then [] :: pieces rest
    else match pieces rest with
      | piece :: more => (c :: piece) :: more
      | [] => [[c]]

/-- Whether a part of a path leads nowhere: it is empty or `.`. -/
def staysPut (piece : List Char) : Bool :=
  piece == [] || piece == ['.']

/-- Takes a path apart. -/
def ofText (text : String) : Path where
  names := ((pieces text.toList).filter (!staysPut ·)).map String.ofList
  isDirectory := (pieces text.toList).getLast?.any staysPut

/-- Whether the last name in the text of a path is `.`. -/
def endsInDot (text : String) : Bool :=
  ((pieces text.toList).filter (· ≠ [])).getLast? == some ['.']

/-- The text of the path to the directory that the last name of a path is in. -/
def parent (text : String) : String :=
  let fromName := (pieces text.toList).reverse.dropWhile staysPut
  String.ofList (['/'].intercalate (fromName.tail.dropWhile staysPut).reverse)

/-- The greatest number of bytes that the text of a path can have. -/
def sizeLimit : Nat := 4095

/-- Whether a text can be given as a path. -/
def isText (text : String) : Bool :=
  !text.toList.contains '\x00' && text.utf8ByteSize ≤ sizeLimit

/-- Whether the text of a path starts at the top of the file system. -/
def isAbsolute (text : String) : Bool :=
  text.toList.head? == some '/'

/-- Whether the text of a path leads nowhere but below the place that it starts from. -/
def staysBelow (text : String) : Bool :=
  !isAbsolute text && ['.', '.'] ∉ pieces text.toList

/-- The text of a path seen from `directory`. An absolute path stays as it is. -/
def join (directory path : String) : String :=
  if isAbsolute path then path
  else if directory = "" ∨ directory.toList.getLast? = some '/' then directory ++ path
  else directory ++ "/" ++ path

end Path

/-- What stands at a path. -/
inductive Disk.Node where
  /-- A file with its bytes. -/
  | file (bytes : List UInt8)
  /-- A directory. -/
  | directory
  deriving DecidableEq, Repr

/-- Why an operation on files failed. -/
inductive FileError where
  /-- There is nothing at the path. -/
  | notFound
  /-- A file stands where a directory is needed. -/
  | notDirectory
  /-- A directory stands where a file is needed. -/
  | isDirectory
  /-- No file can have the name, or no path the text. -/
  | badName
  deriving DecidableEq, Repr

/-- The files and directories below one directory, by the names that lead to them. -/
structure Disk where
  /-- What stands at which place. -/
  nodes : ExtTreeMap (List String) Disk.Node := ∅

namespace Disk

/-- The disk without files. -/
def empty : Disk := {}

/-- An operation that may fail; its changes to the disk stay all the same. -/
abbrev Action (α : Type) := ExceptT FileError (StateM Disk) α

/-- What stands at the place that names lead to. -/
def node? (disk : Disk) (names : List String) : Option Node :=
  if names = [] then some .directory else disk.nodes[names]?

/-- The greatest number of bytes that a name can have. -/
def nameLimit : Nat := 255

/-- Whether a file can have the name. -/
def isName (name : String) : Bool :=
  !name.toList.contains '\x00' && name.utf8ByteSize ≤ nameLimit

/-- Walks along names from the place `here` and gives what stands at the end. -/
def walk (disk : Disk) (here : List String) : List String → Except FileError Node
  | [] =>
    match disk.node? here with
    | some node => .ok node
    | none => .error .notFound
  | name :: rest =>
    match disk.node? here with
    | some .directory =>
      if isName name then walk disk (here ++ [name]) rest else .error .badName
    | some (.file _) => .error .notDirectory
    | none => .error .notFound

/-- What stands at a path. -/
def find (disk : Disk) (path : String) : Except FileError Node :=
  if !Path.isText path then .error .badName
  else if path = "" then .error .notFound
  else
    match disk.walk [] (Path.ofText path).names with
    | .ok (.file bytes) =>
      if (Path.ofText path).isDirectory then .error .notDirectory else .ok (.file bytes)
    | result => result

/-- The bytes of the file at a path. -/
def read (disk : Disk) (path : String) : Except FileError (List UInt8) :=
  match disk.find path with
  | .ok (.file bytes) => .ok bytes
  | .ok .directory => .error .isDirectory
  | .error error => .error error

/-- Sets what stands at a place. -/
def put (names : List String) (node : Node) : Action Unit :=
  modify fun disk => { disk with nodes := disk.nodes.insert names node }

/-- Creates the directory `name` in the directory `here`, unless it is there. -/
def makeDirectory (here : List String) (name : String) : Action Unit := do
  if !isName name then throw .badName
  match (← get).node? (here ++ [name]) with
  | some .directory => return
  | some (.file _) => throw .notDirectory
  | none => put (here ++ [name]) .directory

/-- Creates the directories along names from `here` on, as far as they are not there. -/
def makeAlong (here : List String) : List String → Action Unit
  | [] => return
  | name :: rest => do
    makeDirectory here name
    makeAlong (here ++ [name]) rest

/-- Creates a directory and those that lead to it. A path whose last name is `.` names a directory
that has to be there. -/
def makeDirectories (path : String) : Action Unit := do
  if !Path.isText path then throw .badName
  let names := (Path.ofText path).names
  if Path.endsInDot path then
    makeAlong [] names.dropLast
    match (← get).walk [] names with
    | .ok .directory => return
    | .ok (.file _) => throw .notDirectory
    | .error error => throw error
  else makeAlong [] names

/-- Creates the directories that lead to a path. -/
def makeParents (path : String) : Action Unit :=
  makeDirectories (Path.parent path)

/-- Where a file can be put so that the path leads to it. -/
def fileSlot (disk : Disk) (path : String) : Except FileError (List String) :=
  if !Path.isText path then .error .badName
  else if path = "" then .error .notFound
  else
    let names := (Path.ofText path).names
    match names.getLast? with
    | none => .error .isDirectory
    | some name =>
      match disk.walk [] names.dropLast with
      | .error error => .error error
      | .ok (.file _) => .error .notDirectory
      | .ok .directory =>
        if !isName name then .error .badName
        else if (Path.ofText path).isDirectory then .error .isDirectory
        else match disk.node? names with
          | some .directory => .error .isDirectory
          | _ => .ok names

/-- Writes a file into a directory that is there. -/
def write (path : String) (bytes : List UInt8) : Action Unit := do
  let names ← liftExcept ((← get).fileSlot path)
  put names (.file bytes)
where
  /-- Takes a result as that of an operation. -/
  liftExcept {α : Type} : Except FileError α → Action α
    | .ok a => return a
    | .error error => throw error

/-- Moves a file, and replaces the file that is at its new path. -/
def rename (source target : String) : Action Unit := do
  let bytes ← write.liftExcept ((← get).read source)
  let names ← write.liftExcept ((← get).fileSlot target)
  modify fun disk =>
    { disk with nodes := (disk.nodes.erase (Path.ofText source).names).insert names (.file bytes) }

/-- Writes a file so that no reader sees a part of it: under another name first, which then becomes
the path. -/
def replace (path : String) (bytes : List UInt8) : Action Unit := do
  makeParents path
  write (path ++ ".tmp") bytes
  rename (path ++ ".tmp") path

/-- All paths in ascending order, those of directories with a slash at the end. -/
def list (disk : Disk) : List String :=
  let paths := disk.nodes.toList.map fun (names, node) =>
    "/".intercalate names ++ match node with
      | .directory => "/"
      | .file _ => ""
  paths.mergeSort fun a b => (compare a b).isLE

end Disk

end SetterResolution
