import Rowbase.Connection

/-!
# Command line

Serves one client on standard input and output. The databases are those in a folder, or with
`--in-memory` none that outlast the program.
-/

namespace Rowbase.CommandLine

/-- What the program is told to do. -/
structure Options where
  settings : Settings
  help : Bool

/-- Reads the arguments; none if they make no sense. -/
def Options.ofArguments? (options : Options) : List String → Option Options
  | [] => some options
  | "--help" :: rest => { options with help := true }.ofArguments? rest
  | "--in-memory" :: rest =>
    { options with settings := { options.settings with folder := none } }.ofArguments? rest
  | "--data-dir" :: path :: rest =>
    { options with settings := { options.settings with folder := some path } }.ofArguments? rest
  | _ => none

/-- How to call the program. -/
def usage : String :=
  "usage: rowbase [--data-dir FOLDER | --in-memory]\n" ++
    "Reads one command from each line of standard input and answers it on standard output."

/-- The folder at a path as it is now. The folder is made if it is missing. -/
def readFolder (path : String) : IO Folder := do
  IO.FS.createDirAll path
  let place := (← IO.currentDir) / path
  let mut entries := NameMap.empty
  for entry in ← place.readDir do
    let content ←
      if ← entry.path.isDir then pure Entry.directory
      else Entry.file <$> IO.FS.readBinFile entry.path
    entries := entries.insert entry.fileName content
  return { path, entries }

/-- Makes the files at a folder's path those that the folder has gained or lost. A file is
written beside its place and then moved there. -/
def writeFolder (before after : Folder) : IO Unit := do
  let place := (← IO.currentDir) / after.path
  for (name, entry) in after.entries.entries do
    if let .file bytes := entry then
      unless before.entries.find? name = some entry do
        let draft := place / (name ++ ".part")
        IO.FS.writeBinFile draft bytes
        IO.FS.rename draft (place / name)
  for (name, entry) in before.entries.entries do
    if let .file _ := entry then
      unless after.entries.contains name do
        IO.FS.removeFile (place / name)

/-- Answers the lines of standard input until it ends or the connection is closed. -/
partial def serveLines (session : Session) (store : Store) (keep : Bool) : IO Unit := do
  let bytes := (← (← IO.getStdin).getLine).toUTF8.toList
  let output ← IO.getStdout
  for line in (Connection.lines bytes).head? do
    match Connection.react session store line with
    | .closed reply =>
      output.putStr reply
      output.flush
    | .answered session newStore reply =>
      if keep then writeFolder store.storage.folder newStore.storage.folder
      output.putStr reply
      output.flush
      serveLines session newStore keep

/-- Runs the program. -/
def run (options : Options) : IO Unit := do
  match options.settings.folder with
  | none => serveLines .create .inMemory false
  | some path =>
    let folder ← readFolder path
    serveLines .create (.create { mode := .folder .none, folder }) true

end Rowbase.CommandLine

open Rowbase.CommandLine in
/-- Reads the arguments and serves the client. -/
def main (arguments : List String) : IO UInt32 := do
  let defaults : Options := { settings := .standard, help := false }
  match defaults.ofArguments? arguments with
  | none =>
    IO.eprintln usage
    return 2
  | some options =>
    if options.help then IO.println usage else run options
    return 0
