import Worksheet.CommandLine.Arguments
import Worksheet.Document.Render
import Worksheet.Storage.FileStore

/-!
# The command line

A run of the program: it reads its settings, opens the sheet, changes it as it is told, saves it, and
prints cells or the whole table. Files are those of a tree; the result has the tree as it is afterwards.

* `Outcome` : the exit code and what is printed.
* `loadConfig` : the settings of a command line.
* `run` : a whole run.
-/

namespace Worksheet.CommandLine

structure Outcome where
  code : Nat
  stdout : String
  stderr : String
  deriving DecidableEq, Repr, Inhabited

/-- A failure and what was tried when it came up. -/
structure Complaint where
  context : Option String
  failure : Failure

def Complaint.message (c : Complaint) : String :=
  "Error: " ++ (match c.context with
    | some context => context ++ ": "
    | none => "") ++ c.failure.message

def trying {α : Type} (context : String) : Except Failure α → Except Complaint α
  | .ok a => .ok a
  | .error f => .error ⟨some context, f⟩

/-! ## Settings -/

def settingsLimit : Nat := 1048576

def userSettings (home : String) : String :=
  home ++ "/.config/gridcalc/config.toml"

def userStore (home : String) : String :=
  home ++ "/.local/share/gridcalc"

def readSettings (tree : FileTree) (path : String) : Except Failure Config :=
  match tree.find? (Path.ofText path) with
  | some (.file content) =>
    if settingsLimit < content.size then
      .error (.settings path (.tooLarge content.size settingsLimit))
    else
      match String.fromUTF8? content with
      | some text => Config.parse text path
      | none => .error .io
  | _ => .error .io

/-- The settings in the file that is named, or else in the user's file if there is one. -/
def findSettings (tree : FileTree) (home : String) (named : Option String) : Except Failure Config :=
  match named with
  | some path => readSettings tree path
  | none =>
    if (tree.find? (Path.ofText (userSettings home))).isSome then readSettings tree (userSettings home)
    else .ok .default

def Arguments.override (a : Arguments) (c : Config) : Config :=
  { c with
    tableId := a.id.getD c.tableId
    storeDir := a.store.or c.storeDir
    saveToStore := c.saveToStore && !a.noSave
    rows := a.rows.getD c.rows
    columns := a.columns.getD c.columns }

def loadConfig (tree : FileTree) (home : String) (a : Arguments) : Except Complaint Config := do
  let c ← if a.noConfig then pure .default
    else trying "failed to load config" (findSettings tree home a.config)
  return a.override c

/-! ## The sheet -/

def openSheet (tree : FileTree) (home : String) (c : Config) : Except Complaint (Document FileStore) :=
  if c.saveToStore then
    let directory := Path.ofText (c.storeDir.getD (userStore home))
    trying ("failed to open sheet " ++ c.tableKey) (Document.load c ⟨tree, directory⟩)
  else .ok (Document.new c)

def grown (a : Arguments) (d : Document FileStore) : Document FileStore :=
  let d := (a.addRows.getD 0).repeat Document.addRow d
  (a.addColumns.getD 0).repeat Document.addColumn d

/-- Stores texts in cells one after the other, up to the first that fails. -/
def setAll (d : Document FileStore) :
    List (String × String) → Except Complaint Unit × Document FileStore
  | [] => (.ok (), d)
  | (name, raw) :: sets =>
    match d.setNamed name raw with
    | (.ok _, d) => setAll d sets
    | (.error f, d) => (.error ⟨some ("cannot set " ++ name), f⟩, d)

def edited (a : Arguments) (d : Document FileStore) : Except Complaint Unit × Document FileStore :=
  match setAll (grown a d) a.sets with
  | (.ok (), d) =>
    match d.save with
    | (.ok _, d) => (.ok (), d)
    | (.error f, d) => (.error ⟨none, f⟩, d)
  | failed => failed

/-! ## Printing -/

/-- The line that is printed for a cell: its name and its value, with the code of a failure after it. -/
def evaluationLine {σ : Type} (d : Document σ) (raw : Bool) (c : Coord) : String :=
  if raw then c.name ++ "\t" ++ d.raw c ++ "\n"
  else
    match d.evaluate c with
    | .ok v => c.name ++ "\t" ++ v.display ++ "\n"
    | .error code => c.name ++ "\t" ++ d.options.invalidDisplay ++ "\t" ++ code.text ++ "\n"

def tableText (table : List (List String)) : String :=
  String.join (table.map fun row => "\t".intercalate row ++ "\n")

def evaluations (d : Document FileStore) (raw : Bool) : List String → String × Option Failure
  | [] => ("", none)
  | name :: names =>
    match Document.coordOf name with
    | .error f => ("", some f)
    | .ok c =>
      let (rest, failure) := evaluations d raw names
      (evaluationLine d raw c ++ rest, failure)

def report (a : Arguments) (d : Document FileStore) : String × Option Failure :=
  if a.evals.isEmpty then (tableText (if a.raw then d.renderRaw else d.render), none)
  else evaluations d a.raw a.evals

/-! ## Runs -/

def failed (stdout : String) (c : Complaint) : Outcome :=
  ⟨1, stdout, c.message ++ "\n"⟩

/-- The tree of files of a sheet's store; a sheet without one leaves the tree as it was. -/
def treeAfter (tree : FileTree) (d : Document FileStore) : FileTree :=
  (d.store.map FileStore.tree).getD tree

def runSheet (tree : FileTree) (home : String) (a : Arguments) : Outcome × FileTree :=
  match loadConfig tree home a >>= openSheet tree home with
  | .error c => (failed "" c, tree)
  | .ok d =>
    match edited a d with
    | (.error c, d) => (failed "" c, treeAfter tree d)
    | (.ok (), d) =>
      match report a d with
      | (stdout, none) => (⟨0, stdout, ""⟩, treeAfter tree d)
      | (stdout, some f) => (failed stdout ⟨none, f⟩, treeAfter tree d)

def versionText : String := "gridcalc 0.1.0\n"

def usageText : String :=
  "Usage: gridcalc [--config FILE | --no-config] [--id ID] [--store DIR] [--no-save]\n" ++
  "                [--rows N] [--cols N] [--add-rows N] [--add-cols N]\n" ++
  "                [--set A1=VALUE]... [--eval A1]... [--raw]\n"

/-- A run of the program. `home` is the user's directory. -/
def run (tree : FileTree) (home : String) (words : List String) : Outcome × FileTree :=
  match Request.parse words with
  | none => (⟨2, "", usageText⟩, tree)
  | some .version => (⟨0, versionText, ""⟩, tree)
  | some .usage => (⟨0, usageText, ""⟩, tree)
  | some (.run a) => runSheet tree home a

end Worksheet.CommandLine
