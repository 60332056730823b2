import Rowbase.Database.Document
import Rowbase.Folder

/-!
# Storage

Where databases are kept between runs. In a folder each database is one document, in a file
named by the key of the database; a save writes the document beside the file and then puts it
in the file's place, so a save that fails leaves the file as it was.
-/

namespace Rowbase

namespace Storage

/-- Which calls on a folder fail for want of room, before they touch anything. -/
structure Faults where
  save : Bool
  load : Bool
  remove : Bool
  deriving DecidableEq, Repr

/-- No call fails. -/
def Faults.none : Faults where
  save := false
  load := false
  remove := false

/-- How databases are kept. -/
inductive Mode where
  /-- Not at all: they last as long as the store that holds them. -/
  | memory
  | folder (faults : Faults)
  /-- Every save is accepted and forgotten. While `stopping`, a save never returns, and the
  command that asked for it is cut off. -/
  | discarding (stopping : Bool)
  deriving DecidableEq, Repr

/-- What becomes of a save. -/
inductive Saving where
  | saved
  | failed (fault : StorageFault)
  /-- The save did not return. -/
  | stopped
  deriving DecidableEq, Repr

end Storage

/-- A way of keeping databases, and the folder to keep them in. -/
structure Storage where
  mode : Storage.Mode
  folder : Folder
  deriving DecidableEq

namespace Storage

/-- The file of the database with the given name. -/
def fileName (name : String) : String :=
  Name.key name ++ ".json"

/-- The file that a document is written to before it takes its place. It has the name of the
database's file with an ending added, and where that name is only an ending, the ending is
written twice. -/
def draftName (name : String) : String :=
  let file := fileName name
  match (Name.key name).toList.getLast? with
  | none | some '/' => file ++ ".json.tmp"
  | some _ => file ++ ".tmp"

/-- The fault that a fault of the file system is to the storage. -/
def faultOf : FileFault → StorageFault
  | .missing | .refused => .refused
  | .nulInName => .nulInName

/-- Whether a database of the given name is stored. -/
def holds (storage : Storage) (name : String) : Bool :=
  match storage.mode with
  | .memory | .discarding _ => false
  | .folder _ => storage.folder.isFile (fileName name)

/-- The database that the bytes of a file hold. -/
def decode (path : String) (bytes : ByteArray) : Except StorageFault Database :=
  match String.fromUTF8? bytes with
  | none => .error .notText
  | some document =>
    match Database.read? document with
    | none => .error .malformed
    | some database => if database.isConsistent then .ok database else .error (.inconsistent path)

/-- The stored database of the given name, if there is one. -/
def load (storage : Storage) (name : String) : Except StorageFault (Option Database) :=
  match storage.mode with
  | .memory | .discarding _ => .ok none
  | .folder faults =>
    if faults.load then .error .full
    else
      match storage.folder.read (fileName name) with
      | .error .missing => .ok none
      | .error fault => .error (faultOf fault)
      | .ok bytes => (decode (storage.folder.path ++ "/" ++ fileName name) bytes).map some

/-- Writes a database to its file by way of the draft. A draft that cannot take its place stays. -/
def saveIn (folder : Folder) (database : Database) : Folder × Saving :=
  match folder.write (draftName database.name) database.write.toUTF8 with
  | .error fault => (folder, .failed (faultOf fault))
  | .ok drafted =>
    match drafted.rename (draftName database.name) (fileName database.name) with
    | .error fault => (drafted, .failed (faultOf fault))
    | .ok saved => (saved, .saved)

/-- Stores the state of a database, in place of any earlier one. -/
def save (storage : Storage) (database : Database) : Storage × Saving :=
  match storage.mode with
  | .memory => (storage, .saved)
  | .discarding stopping => (storage, if stopping then .stopped else .saved)
  | .folder faults =>
    if faults.save then (storage, .failed .full)
    else
      let (folder, saving) := saveIn storage.folder database
      ({ storage with folder }, saving)

/-- Removes the stored database of the given name; one that is not stored is no fault. -/
def remove (storage : Storage) (name : String) : Except StorageFault Storage :=
  match storage.mode with
  | .memory | .discarding _ => .ok storage
  | .folder faults =>
    if faults.remove then .error .full
    else
      match storage.folder.remove (fileName name) with
      | .error .missing => .ok storage
      | .error fault => .error (faultOf fault)
      | .ok folder => .ok { storage with folder }

end Storage

end Rowbase
