import Rowbase.NameMap
import Rowbase.Text.Split

/-!
# Folders

A folder of a file system, as far as programs that keep files in it can tell. A file is found
by its path from the folder. Directories on the way must exist; a path may leave the folder,
of whose surroundings only the directories above it are known.
-/

namespace Rowbase

/-- What a name in a folder stands for. -/
inductive Entry where
  | file (bytes : ByteArray)
  | directory

/-- Files are equal if their bytes are. -/
instance : DecidableEq Entry
  | .file bytes, .file bytes' =>
    match ByteArray.instDecidableEq bytes bytes' with
    | isTrue h => isTrue (congrArg Entry.file h)
    | isFalse h => isFalse fun heq => h (Entry.file.inj heq)
  | .directory, .directory => isTrue rfl
  | .file _, .directory | .directory, .file _ => isFalse nofun

/-- Why an operation on files failed. -/
inductive FileFault where
  /-- There is no such file, or no directory to hold it. -/
  | missing
  /-- A directory stands where a file should, a file where a directory should, or a name is
  too long. -/
  | refused
  /-- The path has a NUL character. -/
  | nulInName
  deriving DecidableEq, Repr

/-- A folder: where it is, and its entries by their paths from it. -/
structure Folder where
  path : String
  entries : NameMap Entry
  deriving DecidableEq

namespace Folder

/-- An empty folder. -/
def create (path : String) : Folder where
  path
  entries := .empty

/-- The most bytes that one name in a directory may have. -/
def nameLimit : Nat :=
  255

/-- The path of a name in a directory that the given names lead to. -/
def pathTo (directory : List String) (name : String) : String :=
  String.intercalate "/" (directory ++ [name])

/-- The directory above the one that the given names lead to. -/
def above (directory : List String) : List String :=
  match directory.getLast? with
  | none | some ".." => directory ++ [".."]
  | some "" => directory
  | some _ => directory.dropLast

/-- The directory that a name leads to. -/
def enter (folder : Folder) (directory : List String) (name : String) :
    Except FileFault (List String) :=
  if name = "" ∨ name = "." then .ok directory
  else if name = ".." then .ok (above directory)
  else if nameLimit < name.utf8ByteSize then .error .refused
  else
    match folder.entries.find? (pathTo directory name) with
    | some .directory => .ok (directory ++ [name])
    | some (.file _) => .error .refused
    | none => .error .missing

/-- The path of a file without detours. A path that starts with a slash leaves the folder. -/
def locate (folder : Folder) (path : String) : Except FileFault String := do
  let names := (Text.splitAt '/' path.toList).map String.ofList
  if '\x00' ∈ path.toList then throw .nulInName
  let start := if path.toList.head? = some '/' then [""] else []
  let directory ← names.dropLast.foldlM folder.enter start
  let name := names.getLast?.getD ""
  if nameLimit < name.utf8ByteSize then throw .refused
  return pathTo directory name

/-- The bytes of a file. -/
def read (folder : Folder) (path : String) : Except FileFault ByteArray := do
  match folder.entries.find? (← folder.locate path) with
  | some (.file bytes) => return bytes
  | some .directory => throw .refused
  | none => throw .missing

/-- Whether a path leads to a file. -/
def isFile (folder : Folder) (path : String) : Bool :=
  (folder.read path).toOption.isSome

/-- Puts an entry at a path, unless a directory is there. -/
def put (folder : Folder) (path : String) (entry : Entry) : Except FileFault Folder := do
  let place ← folder.locate path
  if folder.entries.find? place = some .directory then throw .refused
  return { folder with entries := folder.entries.insert place entry }

/-- Writes a file, in place of the one that may be there. -/
def write (folder : Folder) (path : String) (bytes : ByteArray) : Except FileFault Folder :=
  folder.put path (.file bytes)

/-- Removes a file. -/
def remove (folder : Folder) (path : String) : Except FileFault Folder := do
  let _ ← folder.read path
  return { folder with entries := folder.entries.erase (← folder.locate path) }

/-- Gives a file another path, in place of the file that may be there. -/
def rename (folder : Folder) (path newPath : String) : Except FileFault Folder := do
  let bytes ← folder.read path
  (← folder.remove path).write newPath bytes

/-- Makes a directory. -/
def makeDirectory (folder : Folder) (path : String) : Except FileFault Folder :=
  folder.put path .directory

/-- The entries that stand in the folder itself. -/
def listing (folder : Folder) : List (String × Entry) :=
  folder.entries.entries.filter fun entry => '/' ∉ entry.1.toList

end Folder

end Rowbase
