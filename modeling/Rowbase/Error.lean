import Rowbase.Command.Read
import Rowbase.Token.Scan

/-!
# Errors

Every way in which a command can fail, by its cause, and the wording of each. A storage fault
comes from where databases are kept; every other error is the command's own.
-/

namespace Rowbase

/-- Why a database could not be stored, found or removed. -/
inductive StorageFault where
  /-- The file system refused. -/
  | refused
  /-- The medium has no room. -/
  | full
  /-- The file name has a NUL character. -/
  | nulInName
  /-- The bytes of the file are no text. -/
  | notText
  /-- The text is no document of a database. -/
  | malformed
  /-- The document breaks the rules that tables keep. -/
  | inconsistent (path : String)
  deriving DecidableEq, Repr

/-- The fault in words. -/
def StorageFault.message : StorageFault → String
  | refused => "the file system refused"
  | full => "disk full"
  | nulInName => "file name contained an unexpected NUL byte"
  | notText => "stream did not contain valid UTF-8"
  | malformed => "malformed document"
  | inconsistent path => path ++ " does not hold a valid database"

/-- Why a command failed. -/
inductive Error where
  | scan (fault : ScanError)
  | parse (fault : ParseError)
  | noDatabaseSelected
  | unknownDatabase (name : String)
  | unknownTable (name : String)
  | unknownColumn (name : String)
  | databaseExists (name : String)
  | tableExists (name : String)
  | columnExists (name : String)
  /-- The identity column takes no change. -/
  | identityColumn
  | valueCount (expected found : Nat)
  | storage (fault : StorageFault)
  deriving DecidableEq, Repr

namespace Error

/-- The error in words. -/
def message : Error → String
  | scan fault => "lex error: " ++ fault.message
  | parse fault => "parse error: " ++ fault.message
  | noDatabaseSelected => "no database selected, run USE first"
  | unknownDatabase name => "unknown database '" ++ name ++ "'"
  | unknownTable name => "unknown table '" ++ name ++ "'"
  | unknownColumn name => "unknown attribute '" ++ name ++ "'"
  | databaseExists name => "database '" ++ name ++ "' already exists"
  | tableExists name => "table '" ++ name ++ "' already exists"
  | columnExists name => "attribute '" ++ name ++ "' already exists"
  | identityColumn => "the id column is managed by the database and cannot be changed"
  | valueCount expected found =>
    "expected " ++ toString expected ++ " values but got " ++ toString found
  | storage fault => "storage error: " ++ fault.message

/-- Whether the fault lies with the storage and not with the command. -/
def isStorage : Error → Bool
  | storage _ => true
  | _ => false

end Error

/-- The command that a line is. -/
def Command.ofLine (line : String) : Except Error Command :=
  match Token.scan line with
  | .error fault => .error (.scan fault)
  | .ok tokens =>
    match Command.read tokens with
    | .error fault => .error (.parse fault)
    | .ok command => .ok command

end Rowbase
