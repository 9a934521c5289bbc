import Worksheet.CommandLine.Run

/-!
# The program

Brings the files that a run may read into a tree, runs, prints, and writes the file of the sheet if the
run has changed it.
-/

namespace Worksheet.CommandLine

def systemPath (path : Path) : String :=
  match path with
  | "/" :: path => "/" ++ "/".intercalate path
  | path => "/".intercalate path

/-- A tree with a file of the system added, if there is one that can be read. -/
def withFile (tree : FileTree) (path : Path) : IO FileTree := do
  try
    let content ← IO.FS.readBinFile (systemPath path)
    let directory := path.dropLast
    let added := do
      (← tree.makeDirectories directory).write (← path.getLast?) content directory
    return added.getD tree
  catch _ => return tree

def sheetPath (home : String) (c : Config) : Path × String :=
  (Path.ofText (c.storeDir.getD (userStore home)), FileStore.fileName c.tableKey)

/-- The tree of the files that a run with these arguments may read, and where its sheet is. -/
def filesFor (home : String) (a : Arguments) : IO (FileTree × Option (Path × String)) := do
  let tree ← withFile .empty (Path.ofText (a.config.getD (userSettings home)))
  match loadConfig tree home a with
  | .error _ => return (tree, none)
  | .ok c =>
    let (directory, name) := sheetPath home c
    return (← withFile tree (directory ++ [name]), some (directory, name))

def writeBack (before after : FileTree) (directory : Path) (name : String) : IO Unit := do
  match before.find? (directory ++ [name]), after.find? (directory ++ [name]) with
  | some (.file old), some (.file new) => if old != new then write new
  | _, some (.file new) => write new
  | _, _ => return ()
where
  /-- Writes a draft and gives it the name of the file. -/
  write (content : ByteArray) : IO Unit := do
    IO.FS.createDirAll (systemPath directory)
    let path := systemPath (directory ++ [name])
    IO.FS.writeBinFile (path ++ ".tmp") content
    IO.FS.rename (path ++ ".tmp") path

end Worksheet.CommandLine

open Worksheet.CommandLine in
def main (words : List String) : IO UInt32 := do
  let home := (← IO.getEnv "HOME").getD ""
  let (tree, sheet) ← match Request.parse words with
    | some (.run a) => filesFor home a
    | _ => pure (.empty, none)
  let (outcome, after) := run tree home words
  if let some (directory, name) := sheet then
    writeBack tree after directory name
  IO.print outcome.stdout
  IO.eprint outcome.stderr
  return UInt32.ofNat outcome.code
