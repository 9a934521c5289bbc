import Worksheet.Decimal.Numeral
import Worksheet.Address.Coord
import Worksheet.Text.WhiteSpace

/-!
# Arguments of the command line

* `Arguments` : what a command line asks for.
* `Request` : to run, or to tell the version or the usage.
* `Request.parse` : reads a command line; one that is not understood has no reading.
-/

namespace Worksheet.CommandLine

structure Arguments where
  /-- The file of settings to read instead of the user's. -/
  config : Option String
  /-- Whether to read no settings at all. -/
  noConfig : Bool
  /-- The name of the sheet. -/
  id : Option String
  /-- The directory of saved sheets. -/
  store : Option String
  /-- Whether to keep the sheet nowhere. -/
  noSave : Bool
  rows : Option Nat
  columns : Option Nat
  /-- Rows to add after opening. -/
  addRows : Option Nat
  /-- Columns to add after opening. -/
  addColumns : Option Nat
  /-- Names of cells and the texts to store in them. -/
  sets : List (String × String)
  /-- Names of cells to print instead of the whole table. -/
  evals : List String
  /-- Whether to print stored texts instead of values. -/
  raw : Bool
  deriving DecidableEq, Repr, Inhabited

def Arguments.none_ : Arguments where
  config := none
  noConfig := false
  id := none
  store := none
  noSave := false
  rows := none
  columns := none
  addRows := none
  addColumns := none
  sets := []
  evals := []
  raw := false

inductive Request
  | run (a : Arguments)
  | version
  | usage
  deriving DecidableEq, Repr

/-! ## Values of options -/

def count? (s : String) : Option Nat :=
  let ds := match s.toList with
    | '+' :: ds => ds
    | ds => ds
  let n := Decimal.ofDigits ds
  if ds.isEmpty || !ds.all Char.isDigit || wordBound ≤ n then none else some n

def path? (s : String) : Option String :=
  if s = "" then none else some s

def splitAtEquals (s : String) : Option (String × String) :=
  match s.toList.dropWhile (· != '=') with
  | _ :: rest => some (String.ofList (s.toList.takeWhile (· != '=')), String.ofList rest)
  | [] => none

/-- A name and what it is set to, with `=` between them; white space around the name is ignored. -/
def assignment? (s : String) : Option (String × String) := do
  let (name, value) ← splitAtEquals s
  let name := Text.trim name
  if name = "" then none else some (name, value)

def once {α : Type} (old : Option α) (new : Option α) : Option (Option α) :=
  match old, new with
  | none, some v => some (some v)
  | _, _ => none

def raised (old : Bool) : Option Bool :=
  if old then none else some true

/-! ## Command lines -/

def withValue (a : Arguments) (option value : String) : Option Arguments :=
  match option with
  | "config" => (once a.config (path? value)).map fun v => { a with config := v }
  | "id" => (once a.id (some value)).map fun v => { a with id := v }
  | "store" => (once a.store (path? value)).map fun v => { a with store := v }
  | "rows" => (once a.rows (count? value)).map fun v => { a with rows := v }
  | "cols" => (once a.columns (count? value)).map fun v => { a with columns := v }
  | "add-rows" => (once a.addRows (count? value)).map fun v => { a with addRows := v }
  | "add-cols" => (once a.addColumns (count? value)).map fun v => { a with addColumns := v }
  | "set" => (assignment? value).map fun v => { a with sets := a.sets ++ [v] }
  | "eval" => some { a with evals := a.evals ++ [value] }
  | _ => none

def withFlag (a : Arguments) (option : String) : Option Arguments :=
  match option with
  | "no-config" => (raised a.noConfig).map fun v => { a with noConfig := v }
  | "no-save" => (raised a.noSave).map fun v => { a with noSave := v }
  | "raw" => (raised a.raw).map fun v => { a with raw := v }
  | _ => none

def flags : List String :=
  ["no-config", "no-save", "raw"]

/-- Whether a text cannot be the value of the option before it. -/
def looksLikeOption (s : String) : Bool :=
  match s.toList with
  | '-' :: _ :: _ => true
  | _ => false

inductive Word
  /-- An option with two dashes and, if one is attached, its value. -/
  | option (name : String) (value : Option String)
  | version
  | usage
  /-- Two dashes alone, after which there are no options. -/
  | end_
  | other

def Word.ofText (s : String) : Word :=
  match s.toList with
  | ['-', '-'] => .end_
  | '-' :: '-' :: cs =>
    match splitAtEquals (String.ofList cs) with
    | some (name, value) => .option name (some value)
    | none =>
      if cs = "version".toList then .version
      else if cs = "help".toList then .usage
      else .option (String.ofList cs) none
  | '-' :: 'V' :: _ => .version
  | '-' :: 'h' :: _ => .usage
  | _ => .other

/-- A command line that has been read: a file of settings cannot be both named and ignored. -/
def finished (a : Arguments) : Option Request :=
  if a.config.isSome && a.noConfig then none else some (.run a)

def parseFrom (a : Arguments) : List String → Option Request
  | [] => finished a
  | w :: ws =>
    match Word.ofText w with
    | .end_ => if ws.isEmpty then finished a else none
    | .version => some .version
    | .usage => some .usage
    | .other => none
    | .option name (some value) => (withValue a name value).bind fun a => parseFrom a ws
    | .option name none =>
      if flags.contains name then (withFlag a name).bind fun a => parseFrom a ws
      else
        match ws with
        | value :: ws =>
          if looksLikeOption value then none
          else (withValue a name value).bind fun a => parseFrom a ws
        | [] => none

def Request.parse (words : List String) : Option Request :=
  parseFrom .none_ words

end Worksheet.CommandLine
