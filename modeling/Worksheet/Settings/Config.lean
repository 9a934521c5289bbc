import Worksheet.Evaluation.Options
import Worksheet.Failure
import Worksheet.Toml.Reader

/-!
# Settings

What a sheet looks like when it is opened, where it is kept, and the limits of evaluation. Every setting
has a default; a document of settings may name those it changes and no others.

* `Config` : the settings; `Config.default`.
* `Config.extent`, `Config.limit`, `Config.tableKey` : what they say about a sheet.
* `Config.ofToml?` : the settings in the entries of a document; `Config.parse` in its text.
-/

namespace Worksheet

/-- The settings of a sheet. -/
structure Config where
  /-- How many rows the sheet starts with. -/
  rows : Nat
  /-- How many columns the sheet starts with. -/
  columns : Nat
  /-- The largest number of rows of a stored sheet. -/
  maxRows : Nat
  /-- The largest number of columns of a stored sheet. -/
  maxColumns : Nat
  /-- The name of the sheet in its store. -/
  tableId : String
  /-- Whether the sheet is read from a store and written to it. -/
  saveToStore : Bool
  /-- The directory of the store, if it is not the usual one. -/
  storeDir : Option String
  options : Options
  deriving DecidableEq, Repr, Inhabited

namespace Config

def default : Config where
  rows := 10
  columns := 6
  maxRows := 1048576
  maxColumns := 16384
  tableId := "default"
  saveToStore := true
  storeDir := none
  options := .default

def limit (c : Config) : Extent :=
  ⟨c.maxColumns, c.maxRows⟩

def extent (c : Config) : Extent :=
  Extent.common ⟨c.columns, c.rows⟩ c.limit

def tableKey (c : Config) : String :=
  "gridData-" ++ c.tableId

/-! ## Reading -/

def count? : Toml.Value → Option Nat
  | .int n => if 0 ≤ n then some n.toNat else none
  | _ => none

def setLimit (o : Options) (key : String) (v : Toml.Value) : Option Options :=
  match key with
  | "max_depth" => (count? v).map fun n => { o with maxDepth := n }
  | "max_chain" => (count? v).map fun n => { o with maxChain := n }
  | "max_operations" => (count? v).map fun n => { o with maxOperations := n }
  | _ => none

def limitKeys : List String :=
  ["max_depth", "max_chain", "max_operations"]

/-- The limits of evaluation with those changed that a value gives, as a table or as a list. -/
def setLimits (o : Options) : Toml.Value → Option Options
  | .table _ es => es.foldlM (fun o e => setLimit o e.1 e.2) o
  | .array items | .tables items => (limitKeys.zip items).foldlM (fun o e => setLimit o e.1 e.2) o
  | _ => none

def set (c : Config) (key : String) (v : Toml.Value) : Option Config :=
  match key, v with
  | "rows", v => (count? v).map fun n => { c with rows := n }
  | "columns", v => (count? v).map fun n => { c with columns := n }
  | "max_rows", v => (count? v).map fun n => { c with maxRows := n }
  | "max_columns", v => (count? v).map fun n => { c with maxColumns := n }
  | "table_id", .text s => some { c with tableId := s }
  | "save_to_store", .bool b => some { c with saveToStore := b }
  | "store_dir", .text s => some { c with storeDir := some s }
  | "invalid_display", .text s => some { c with options := { c.options with invalidDisplay := s } }
  | "eval", v => (setLimits c.options v).map fun o => { c with options := o }
  | _, _ => none

/-- The settings that the entries of a document give; every other one has its default. -/
def ofToml? (es : Toml.Entries) : Option Config :=
  es.foldlM (fun c e => c.set e.1 e.2) .default

/-- The settings in the text of a document; `path` names it in a failure. -/
def parse (text path : String) : Except Failure Config :=
  match (Toml.parse? text).bind ofToml? with
  | some c => .ok c
  | none => .error (.settings path .malformed)

end Config

end Worksheet
