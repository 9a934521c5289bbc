import Worksheet.Evaluation.Lookup
import Worksheet.Evaluation.Options
import Worksheet.Evaluation.Outcome
import Worksheet.Formula.Reference
import Worksheet.Script.Engine

/-!
# Evaluating formulas

A formula is turned into a script and run; its lookups are answered from a grid. If the value shows as a
formula again, that one is evaluated next, for the same cell, up to a number of times. A formula in a
range is evaluated one level deeper, up to a number of levels. Any engine may run the scripts.

* `answer` : the answers to a script's lookups.
* `evaluateStep` : one formula; `followChain` : one after the other.
* `evaluateIn`, `evaluate`, `evaluateCell`, `computeDisplay` : the evaluator.
-/

namespace Worksheet

/-! ## Values of cells in scripts -/

def CellValue.toScript : CellValue → Script.Value
  | .number x => .float x
  | .text s => .text s

/-- What a script gets for a value in a range: literals that are numerals are numbers. -/
def CellValue.inRange : CellValue → Script.Value
  | .number x => .float x
  | .text s => (CellValue.ofRaw s).toScript

/-! ## Evaluation -/

/-- The answer to a lookup; `nested` evaluates the formulas of ranges. -/
def answer (g : Grid) (nested : Context → String → Result) (ctx : Context) :
    Script.Lookup → Script.Reply
  | .cell column row =>
    (resolveCell g (CellRef.toCoord ⟨column, row⟩) ctx).map fun raw => (CellValue.ofRaw raw).toScript
  | .range column₁ row₁ column₂ row₂ =>
    let a := CellRef.toCoord ⟨column₁, row₁⟩
    let b := CellRef.toCoord ⟨column₂, row₂⟩
    (ExceptT.run (resolveRange (m := Id) g a b ctx nested)).map fun rows =>
      .array (rows.map fun row => .array (row.map CellValue.inRange))
  | .negative => .error .ref

def evaluateStep [Script.Engine] (g : Grid) (limit : Nat) (nested : Context → String → Result) (ctx : Context)
    (formula : String) : Result :=
  let r := (Script.Engine.run limit (Formula.toScript formula)).run (answer g nested ctx)
  (Outcome.ofRun r).toResult

/-- The value of a formula, where a value that is a formula again is evaluated in its turn, at most
`more` times. -/
def followChain (step : String → Result) (more : Nat) (formula : String) : Result :=
  match step formula with
  | .error c => .error c
  | .ok v =>
    match formula? v.display with
    | none => .ok v
    | some next =>
      match more with
      | 0 => .error .recursionLimit
      | more + 1 => followChain step more next

variable [Script.Engine]

/-- The value of a formula whose ranges may be nested in at most `levels` further levels. -/
def evaluateWithin (g : Grid) (options : Options) (levels : Nat) (ctx : Context) (formula : String) :
    Result :=
  let nested := match levels with
    | 0 => fun _ _ => .error .recursionLimit
    | levels + 1 => evaluateWithin g options levels
  followChain (evaluateStep g options.maxOperations nested ctx) options.maxChain formula

def evaluateIn (g : Grid) (options : Options) (ctx : Context) (formula : String) : Result :=
  if options.maxDepth < ctx.depth then .error .recursionLimit
  else evaluateWithin g options (options.maxDepth - ctx.depth) ctx formula

def evaluate (g : Grid) (options : Options) (c : Coord) (formula : String) : Result :=
  evaluateIn g options (.root c) formula

/-- The value of the formula that a cell stores; literals have none. -/
def evaluateCell (g : Grid) (options : Options) (c : Coord) : Option Result :=
  (formula? (g.get c)).map (evaluate g options c)

/-- What a cell with this stored text shows: a literal itself, a formula its value. -/
def computeDisplay (g : Grid) (options : Options) (c : Coord) (raw : String) : String :=
  match formula? raw with
  | none => raw
  | some formula =>
    let outcome := Outcome.ofResult (evaluate g options c formula)
    match outcome.error with
    | some _ => options.invalidDisplay
    | none => outcome.value.display

theorem evaluateStep_eq_bind (g : Grid) (limit : Nat) (nested : Context → String → Result) (ctx : Context)
    (formula : String) :
    evaluateStep g limit nested ctx formula =
      (Script.dialogue limit (Formula.toScript formula)).run (answer g nested ctx) >>= Script.Value.toCell := by
  rw [evaluateStep, Outcome.ofRun, Outcome.toResult_ofResult, Script.dialogue, Script.Dialogue.run_map]
  rfl

end Worksheet
