import Mathlib.Data.List.Basic
import Worksheet.Evaluation.Evaluator
import Worksheet.Proofs.CellValue
import Worksheet.Proofs.Formula.Expansion
import Worksheet.Proofs.Script.Arithmetic

/-!
# One step of evaluation

What one step makes of the formulas that are built from names and ranges, with any way of evaluating the
formulas of ranges:

* `CellValue.number?`, `rangeNumbers`, `aggregateResult` : the numbers of a range, and what becomes of an aggregate;
* `evaluateStep_name` : a name alone;
* `aggregateOf`, `evaluateStep_aggregate_range`, `evaluateStep_aggregate_name` : an aggregate of a range or a
  name;
* `arithmeticOf`, `evaluateStep_arithmetic` : a name, an operator and a whole number;
* `nestedWithin`, `evaluateWithin_eq` : the levels of evaluation;
* `evaluateCell_ofFormula` : the evaluation of a cell starts at the outermost level.
-/

namespace Worksheet

open Script Formula

/-! ## Values -/

theorem toCell_float {x : Float} (h : x.isFinite = true) : (Value.float x).toCell = .ok (.number x) := by
  unfold Value.toCell
  simp only [isNaN_of_isFinite h, isInf_of_isFinite h, Bool.false_eq_true, if_false]

theorem isFinite_of_ofRaw {raw : String} {x : Float} (h : CellValue.ofRaw raw = .number x) : x.isFinite = true := by
  unfold CellValue.ofRaw at h
  split at h
  · split at h
    · rename_i hfinite
      cases h
      exact hfinite
    · cases h
  · cases h

theorem toCell_toScript_ofRaw (raw : String) :
    (CellValue.ofRaw raw).toScript.toCell = .ok (CellValue.ofRaw raw) := by
  cases h : CellValue.ofRaw raw with
  | number x => exact toCell_float (isFinite_of_ofRaw h)
  | text s => rfl

theorem numbersOfItems_map {α : Type} (f : α → Value) (xs : List α) :
    numbersOfItems (xs.map f) = xs.flatMap fun x => numbers (f x) := by
  induction xs with
  | nil => rfl
  | cons x xs ih => rw [List.map_cons, numbersOfItems, ih, List.flatMap_cons]

/-- The number that a value counts for in a range, if any: its own, or the one that its text stands for. -/
def CellValue.number? : CellValue → Option Float
  | .number x => some x
  | .text s =>
    match CellValue.ofRaw s with
    | .number x => some x
    | .text _ => none

theorem CellValue.numbers_inRange (v : CellValue) : numbers v.inRange = v.number?.toList := by
  cases v with
  | number x => rfl
  | text s =>
    rw [CellValue.inRange, CellValue.number?]
    cases CellValue.ofRaw s <;> rfl

def rangeNumbers (rows : List (List CellValue)) : List Float :=
  rows.flatten.flatMap fun v => numbers v.inRange

theorem rangeNumbers_eq_filterMap (rows : List (List CellValue)) :
    rangeNumbers rows = rows.flatten.filterMap CellValue.number? := by
  rw [rangeNumbers, List.filterMap_eq_flatMap_toList]
  exact List.flatMap_congr fun v _ => v.numbers_inRange

theorem numbers_rows (rows : List (List CellValue)) :
    numbers (.array (rows.map fun row => .array (row.map CellValue.inRange))) = rangeNumbers rows := by
  rw [numbers, numbersOfItems_map, rangeNumbers, ← List.flatMap_id, List.flatMap_assoc]
  simp only [numbers, numbersOfItems_map, id]

/-- What an evaluation makes of an aggregate of numbers. -/
def aggregateResult (a : Aggregate) (xs : List Float) : Result :=
  (a.ofNumbers xs).bind fun x => (Value.float x).toCell

/-! ## Steps -/

/-- The operations that a script may take by default are enough for a lookup. -/
theorem suffices_default : Suffices Options.default.maxOperations := by
  unfold Suffices
  decide

/-- The formula that is an aggregate of a name or a range. -/
def aggregateOf (a : Aggregate) (argument : String) : String :=
  a.name ++ "(" ++ argument ++ ")"

def arithmeticOf (a : Arithmetic) (operand : String) (n : Nat) : String :=
  operand ++ " " ++ String.singleton a.mark ++ " " ++ toString n

theorem toScript_arithmeticOf (a : Arithmetic) {r : CellRef} (hr : r.InReach) (n : Nat) :
    toScript (arithmeticOf a r.name n) = String.ofList (arithmeticScript a (.cell r) n) := by
  have htext : arithmeticOf a r.name n =
      String.ofList (r.nameChars ++ ' ' :: a.mark :: ' ' :: Nat.toDigits 10 n) := by
    rw [arithmeticOf, CellRef.name, Nat.toString_eq_ofList_toDigits, ← String.toList_inj]
    simp
  have hcolon : takeRangeEnd? (' ' :: a.mark :: ' ' :: Nat.toDigits 10 n) = none := by
    cases a <;> rfl
  have hrest : ∀ c ∈ ' ' :: a.mark :: ' ' :: Nat.toDigits 10 n, c.isAlpha = false ∧ isOrdinary c = true := by
    intro c hc
    simp only [List.mem_cons] at hc
    obtain rfl | rfl | rfl | hc := hc
    · decide
    · cases a <;> decide
    · decide
    · have hdigit : c.isDigit = true := Decimal.isDigit_of_mem_toDigits hc
      exact ⟨CellRef.isAlpha_of_isDigit hdigit, isOrdinary_of_isAlphanum (CellRef.isAlphanum_of_isDigit hdigit)⟩
  rw [htext, toScript_nameBefore hr (Text.Stops.cons (by decide) _) hcolon (fun c hc => (hrest c hc).1)
    fun c hc => (hrest c hc).2, arithmeticScript]

variable {g : Grid} {limit : Nat} (hlimit : Suffices limit) (nested : Context → String → Result) (ctx : Context)

theorem evaluateStep_of_run [Engine] {formula : String} {reply : Except ErrorCode Value}
    (h : (dialogue limit (toScript formula)).run (answer g nested ctx) = reply) :
    evaluateStep g limit nested ctx formula = reply.bind Value.toCell := by
  rw [evaluateStep_eq_bind, h]
  rfl

include hlimit

theorem evaluateStep_name {b : Coord} (hb : b.Addressable) :
    evaluateStep g limit nested ctx b.name = (resolveCell g b ctx).map CellValue.ofRaw := by
  obtain ⟨r, hr, rfl⟩ := hb.exists_cellRef
  have hrun := run_lookup (r := .cell r) hr hlimit (answer g nested ctx)
  rw [CellRef.name_toCoord, evaluateStep_of_run nested ctx (by rw [toScript_name hr, hrun]),
    Reference.lookup, answer]
  cases resolveCell g r.toCoord ctx with
  | error c => rfl
  | ok raw => exact toCell_toScript_ofRaw raw

theorem evaluateStep_aggregate_name (a : Aggregate) {b : Coord} (hb : b.Addressable) :
    evaluateStep g limit nested ctx (aggregateOf a b.name) =
      (resolveCell g b ctx).bind fun raw =>
        (a.ofNumbers (numbers (CellValue.ofRaw raw).toScript)).bind fun x => (Value.float x).toCell := by
  obtain ⟨r, hr, rfl⟩ := hb.exists_cellRef
  have hword := isAlpha_of_mem_aggregate a
  have htext : aggregateOf a r.name = String.ofList (a.name.toList ++ '(' :: (r.nameChars ++ [')'])) := by
    rw [aggregateOf, CellRef.name, ← String.toList_inj]
    simp
  have hrun := run_aggregate (r := .cell r) hr hlimit (answer g nested ctx) a
  rw [CellRef.name_toCoord, htext,
    evaluateStep_of_run nested ctx (by rw [toScript_callName hword hr, hrun]), Reference.lookup, answer]
  cases resolveCell g r.toCoord ctx with
  | error c => rfl
  | ok raw =>
    show Except.bind (Except.map _ (a.ofNumbers _)) _ = Except.bind (a.ofNumbers _) _
    cases a.ofNumbers (numbers (CellValue.ofRaw raw).toScript) <;> rfl

theorem evaluateStep_aggregate_range (a : Aggregate) {b c : Coord} (hb : b.Addressable) (hc : c.Addressable) :
    evaluateStep g limit nested ctx (aggregateOf a (b.name ++ ":" ++ c.name)) =
      (ExceptT.run (resolveRange (m := Id) g b c ctx nested)).bind fun rows =>
        (a.ofNumbers (rangeNumbers rows)).bind fun x => (Value.float x).toCell := by
  obtain ⟨r, hr, rfl⟩ := hb.exists_cellRef
  obtain ⟨s, hs, rfl⟩ := hc.exists_cellRef
  have hword := isAlpha_of_mem_aggregate a
  have htext : aggregateOf a (r.name ++ ":" ++ s.name) =
      String.ofList (a.name.toList ++ '(' :: (r.nameChars ++ ':' :: (s.nameChars ++ [')']))) := by
    rw [aggregateOf, CellRef.name, CellRef.name, ← String.toList_inj]
    simp
  have hrun := run_aggregate (r := .range r s) ⟨hr, hs⟩ hlimit (answer g nested ctx) a
  rw [CellRef.name_toCoord, CellRef.name_toCoord, htext,
    evaluateStep_of_run nested ctx (by rw [toScript_callRange hword hr hs, hrun]), Reference.lookup, answer]
  cases ExceptT.run (resolveRange (m := Id) g r.toCoord s.toCoord ctx nested) with
  | error c => rfl
  | ok rows =>
    show Except.bind (Except.map _ (a.ofNumbers (numbers (.array (rows.map _))))) _ =
      Except.bind (a.ofNumbers (rangeNumbers rows)) _
    rw [numbers_rows]
    cases a.ofNumbers (rangeNumbers rows) <;> rfl

theorem evaluateStep_arithmetic (a : Arithmetic) {b : Coord} (hb : b.Addressable) (n : Nat) :
    evaluateStep g limit nested ctx (arithmeticOf a b.name n) =
      (resolveCell g b ctx).bind fun raw =>
        ((a.op.apply (CellValue.ofRaw raw).toScript (wholeLiteral n).value).mapError Fault.code).bind Value.toCell := by
  obtain ⟨r, hr, rfl⟩ := hb.exists_cellRef
  have hrun := run_arithmetic a (r := .cell r) hr hlimit (answer g nested ctx) n
  rw [CellRef.name_toCoord, evaluateStep_of_run nested ctx (by rw [toScript_arithmeticOf a hr, hrun]),
    Reference.lookup, answer]
  cases resolveCell g r.toCoord ctx <;> rfl

/-! ## Levels -/

omit hlimit

variable [Engine]

/-- How the formulas of ranges are evaluated where so many further levels may be nested. -/
def nestedWithin (g : Grid) (o : Options) : Nat → Context → String → Result
  | 0 => fun _ _ => .error .recursionLimit
  | levels + 1 => evaluateWithin g o levels

theorem nestedWithin_succ (g : Grid) (o : Options) (levels : Nat) :
    nestedWithin g o (levels + 1) = evaluateWithin g o levels := rfl

theorem evaluateWithin_eq (o : Options) (levels : Nat) (formula : String) :
    evaluateWithin g o levels ctx formula =
      followChain (evaluateStep g o.maxOperations (nestedWithin g o levels) ctx) o.maxChain formula := by
  cases levels <;> rfl

theorem evaluateCell_ofFormula {o : Options} {c : Coord} {formula : String} (h : g.get c = ofFormula formula) :
    evaluateCell g o c = some (evaluateWithin g o o.maxDepth (.root c) formula) := by
  rw [evaluateCell, h, formula?_ofFormula, Option.map_some, evaluate, evaluateIn, Context.root,
    if_neg (Nat.not_lt_zero _), Nat.sub_zero]

end Worksheet
