import Worksheet.Evaluation.Evaluator
import Worksheet.Script.Interpreter
import Worksheet.Settings.Config
import Worksheet.Storage.Store

/-!
# Documents

A document is a sheet that is open: its cells, the options of its evaluation and, unless it is kept
nowhere, the store that it is saved to. Every accepted change of a cell is saved at once.

* `Document` : an open sheet; `Document.new` and `Document.load` open one.
* `storedExtent` : the extent that the cells of a snapshot need.
* `raw`, `display`, `evaluate` : reading a cell.
* `set`, `setNamed`, `addRow`, `addColumn` : changing the sheet.
* `save` : writing it to the store.
-/

namespace Worksheet

/-- An open sheet, with a store of type `σ` or without one. -/
structure Document (σ : Type) where
  grid : Grid
  options : Options
  /-- The key of the sheet in the store. -/
  tableKey : String
  store : Option σ
  saveToStore : Bool

/-! ## Opening -/

def Snapshot.cells (s : Snapshot) : List Coord :=
  s.entries.flatMap fun (y, row) => row.entries.map fun (x, _) => ⟨x, y⟩

/-- The least extent that holds the cells of a snapshot; none of them may be a header or lie past the
limit. -/
def storedExtent (s : Snapshot) (limit : Extent) : Except Failure Extent :=
  s.cells.foldlM (fun extent c =>
    if c.isHeader || !limit.contains c then .error (.storedCellOutOfBounds c limit)
    else .ok (extent.cover ⟨c.x, c.y⟩)) ⟨0, 0⟩

namespace Document

variable {σ : Type}

def ofSnapshot (config : Config) (s : Snapshot) (extent : Extent) (store : Option σ) : Document σ where
  grid := .ofSnapshot s extent
  options := config.options
  tableKey := config.tableKey
  store := store
  saveToStore := config.saveToStore

def new (config : Config) : Document σ :=
  ofSnapshot config .empty config.extent none

def loadSnapshot [Store σ] (store : σ) (key : String) : Except Failure Snapshot := do
  match ← Store.read store key with
  | none => return .empty
  | some text =>
    match Snapshot.decode? text with
    | some s => return s
    | none => .error .snapshot

/-- The sheet in a store; an empty one if the settings say that nothing is saved. -/
def load [Store σ] (config : Config) (store : σ) : Except Failure (Document σ) := do
  let s ← if config.saveToStore then loadSnapshot store config.tableKey else pure .empty
  let stored ← storedExtent s config.limit
  return ofSnapshot config s (config.extent.cover stored) (some store)

/-! ## Reading -/

def raw (d : Document σ) (c : Coord) : String :=
  d.grid.get c

def display (d : Document σ) (c : Coord) : String :=
  computeDisplay d.grid d.options c (d.raw c)

/-- The value of a cell; that of a literal is its text. -/
def evaluate (d : Document σ) (c : Coord) : Result :=
  (evaluateCell d.grid d.options c).getD (.ok (.text (d.raw c)))

/-! ## Changing and saving -/

/-- Writes the sheet to its store if it has been modified, and says whether it has been written. -/
def save [Store σ] (d : Document σ) : Except Failure Bool × Document σ :=
  if !d.saveToStore || !d.grid.modified then (.ok false, d)
  else
    match d.store with
    | none => (.ok false, d)
    | some store =>
      match Store.write store d.tableKey d.grid.snapshot.encode with
      | (.ok (), store) => (.ok true, { d with grid := d.grid.markClean, store := some store })
      | (.error f, store) => (.error f, { d with store := some store })

/-- Whether a cell may be changed: headers and places past the extent may not. -/
def checkEditable (d : Document σ) (c : Coord) : Except Failure Unit :=
  if c.isHeader then .error (.headerCell c)
  else if !d.grid.extent.contains c then .error (.outsideExtent c d.grid.extent)
  else .ok ()

/-- Stores text in a cell and saves the sheet. The text stays even if the sheet cannot be saved. -/
def set [Store σ] (d : Document σ) (c : Coord) (raw : String) : Except Failure Unit × Document σ :=
  match d.checkEditable c with
  | .error f => (.error f, d)
  | .ok () =>
    let (saved, d) := save { d with grid := d.grid.set c raw }
    (saved.map fun _ => (), d)

def coordOf (name : String) : Except Failure Coord :=
  match CellRef.ofName? name with
  | some r => .ok r.toCoord
  | none => .error (.invalidCellRef name)

def setNamed [Store σ] (d : Document σ) (name raw : String) : Except Failure Coord × Document σ :=
  match coordOf name with
  | .error f => (.error f, d)
  | .ok c =>
    let (done, d) := d.set c raw
    (done.map fun _ => c, d)

def addRow (d : Document σ) : Document σ :=
  { d with grid := d.grid.growRows }

def addColumn (d : Document σ) : Document σ :=
  { d with grid := d.grid.growColumns }

end Document

end Worksheet
