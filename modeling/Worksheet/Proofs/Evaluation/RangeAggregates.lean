import Worksheet.Proofs.Evaluation.Agreement
import Worksheet.Proofs.Evaluation.Levels
import Worksheet.Proofs.Evaluation.Places

/-!
# Aggregates of ranges

The formula that is an aggregate of the range between two cells answers what the aggregate makes of the numbers of the
range, or fails with the first formula of the range that fails.

* `Grid.FirstFailure`, `resolveRange_eq_error_iff` : the formula that a range fails with;
* `Grid.FirstFailure.congr` : it does not depend on what comes after it;
* `aggregateResult_of_numbers` : numbers that are reported as errors;
* `evaluateIn_aggregateOf` : the evaluation of an aggregate at any level; `evaluateIn_aggregate` : what it answers.
-/

namespace Worksheet

open Script

/-! ## The first failure -/

section

variable {g : Grid} {ctx : Context} {evaluate : Context → String → Result} {a b : Coord}

/-- Only formulas fail. -/
theorem rangeValue_eq_error_iff {d : Coord} {c : ErrorCode} :
    rangeValue g ctx evaluate d = .error c ↔
      ∃ formula, formula? (g.get d) = some formula ∧ evaluate (ctx.nested d) formula = .error c := by
  cases hformula : formula? (g.get d) with
  | none =>
    rw [rangeValue_literal hformula]
    exact iff_of_false (by simp) (by simp)
  | some formula =>
    rw [rangeValue_formula hformula]
    simp

theorem exists_rangeValue_iff {d : Coord} :
    (∃ v, rangeValue g ctx evaluate d = .ok v) ↔
      ∀ formula, formula? (g.get d) = some formula → ∃ v, evaluate (ctx.nested d) formula = .ok v := by
  cases hformula : formula? (g.get d) with
  | none =>
    rw [rangeValue_literal hformula]
    simp
  | some formula =>
    rw [rangeValue_formula hformula]
    simp

/-- Whether a formula between two corners fails with this code, and all formulas before it answer. -/
structure Grid.FirstFailure (g : Grid) (ctx : Context) (evaluate : Context → String → Result) (a b d : Coord)
    (c : ErrorCode) : Prop where
  clips : g.extent.Clips a b d
  fails : ∃ formula, formula? (g.get d) = some formula ∧ evaluate (ctx.nested d) formula = .error c
  before : ∀ e, g.extent.Clips a b e → e.Before d →
    ∀ formula, formula? (g.get e) = some formula → ∃ v, evaluate (ctx.nested e) formula = .ok v

theorem Grid.firstFailure_iff {d : Coord} {c : ErrorCode} :
    g.FirstFailure ctx evaluate a b d c ↔ g.extent.Clips a b d ∧ rangeValue g ctx evaluate d = .error c ∧
      ∀ e, g.extent.Clips a b e → e.Before d → ∃ v, rangeValue g ctx evaluate e = .ok v := by
  simp only [rangeValue_eq_error_iff, exists_rangeValue_iff]
  exact ⟨fun ⟨hclips, hfails, hbefore⟩ => ⟨hclips, hfails, hbefore⟩,
    fun ⟨hclips, hfails, hbefore⟩ => ⟨hclips, hfails, hbefore⟩⟩

theorem resolveRange_eq_error_iff {c : ErrorCode} :
    (resolveRange (m := Id) g a b ctx evaluate).run = .error c ↔ ∃ d, g.FirstFailure ctx evaluate a b d c := by
  rw [← map_eq_error_iff List.flatten, resolveRange_flatten,
    mapM_eq_error_iff Coord.Before.asymm ((Rectangle.pairwise_cells _).filter g.extent.contains)]
  simp only [Rectangle.mem_filter_cells_around, Grid.firstFailure_iff]
  rfl

/-- What comes after the first failure does not matter, in a sheet of the same size. -/
theorem Grid.FirstFailure.congr {d : Coord} {c : ErrorCode} (hfirst : g.FirstFailure ctx evaluate a b d c) {h : Grid}
    {evaluate' : Context → String → Result} (hextent : h.extent = g.extent)
    (hvalues : ∀ e, g.extent.Clips a b e → ¬d.Before e →
      rangeValue h ctx evaluate' e = rangeValue g ctx evaluate e) :
    h.FirstFailure ctx evaluate' a b d c := by
  obtain ⟨hclips, hfails, hbefore⟩ := Grid.firstFailure_iff.mp hfirst
  rw [Grid.firstFailure_iff, hextent]
  refine ⟨hclips, (hvalues d hclips (Coord.Before.irrefl d)).trans hfails, fun e he hed => ?_⟩
  obtain ⟨v, hv⟩ := hbefore e he hed
  exact ⟨v, (hvalues e he hed.asymm).trans hv⟩

end

/-! ## Aggregates of numbers -/

theorem aggregateResult_average_nil : aggregateResult .average [] = .error .divZero := rfl

theorem aggregateResult_of_numbers {f : Aggregate} {xs : List Float} (h : f = .average → xs ≠ []) :
    ∃ x, f.ofNumbers xs = .ok x ∧ aggregateResult f xs =
      if x.isNaN then .error .num else if x.isInf then .error .divZero else .ok (.number x) := by
  have hnumber : ∃ x, f.ofNumbers xs = .ok x := by
    cases f with
    | average => exact ⟨_, if_neg (by simpa using h rfl)⟩
    | _ => exact ⟨_, rfl⟩
  obtain ⟨x, hx⟩ := hnumber
  refine ⟨x, hx, ?_⟩
  rw [aggregateResult, hx]
  rfl

/-! ## Aggregates of ranges -/

variable {g : Grid} {o : Options} (hops : o.maxOperations = Options.default.maxOperations) {ctx : Context}
  (hdepth : ctx.depth ≤ o.maxDepth) {a b : Coord} (ha : a.Addressable) (hb : b.Addressable)
include hops hdepth ha hb

theorem evaluateIn_aggregateOf (f : Aggregate) :
    evaluateIn g o ctx (aggregateOf f (a.name ++ ":" ++ b.name)) =
      (resolveRange (m := Id) g a b ctx (evaluateIn g o)).run.bind fun rows =>
        aggregateResult f (rows.flatten.filterMap CellValue.number?) := by
  have hlimit : Suffices o.maxOperations := hops ▸ suffices_default
  have hstep := evaluateStep_aggregate_range (g := g) hlimit (evaluateIn g o) ctx f ha hb
  simp only [rangeNumbers_eq_filterMap] at hstep
  rw [evaluateIn_eq g hdepth]
  cases hrows : (resolveRange (m := Id) g a b ctx (evaluateIn g o)).run with
  | error c =>
    rw [hrows] at hstep
    exact followChain_of_float (y := .error c) hstep _
  | ok rows =>
    rw [hrows] at hstep
    exact followChain_of_float hstep _

/-- An aggregate of a range answers what the aggregate makes of the numbers in it, row by row. If a formula in the range
fails, then the first one that fails decides, whatever the places after it hold. -/
theorem evaluateIn_aggregate (f : Aggregate) :
    evaluateIn g o ctx (aggregateOf f (a.name ++ ":" ++ b.name)) =
        (resolveRange (m := Id) g a b ctx (evaluateIn g o)).run.bind (fun rows =>
          aggregateResult f (rows.flatten.filterMap CellValue.number?)) ∧
      aggregateResult .average [] = .error .divZero ∧
      (∀ xs, (f = .average → xs ≠ []) → ∃ x, f.ofNumbers xs = .ok x ∧ aggregateResult f xs =
        if x.isNaN then .error .num else if x.isInf then .error .divZero else .ok (.number x)) ∧
      (∀ c, (resolveRange (m := Id) g a b ctx (evaluateIn g o)).run = .error c ↔
        ∃ d, g.FirstFailure ctx (evaluateIn g o) a b d c) ∧
      ∀ d c, g.FirstFailure ctx (evaluateIn g o) a b d c →
        ∀ h : Grid, h.extent = g.extent →
          (∀ e, g.extent.Clips a b e → ¬d.Before e →
            rangeValue h ctx (evaluateIn h o) e = rangeValue g ctx (evaluateIn g o) e) →
          evaluateIn h o ctx (aggregateOf f (a.name ++ ":" ++ b.name)) = .error c := by
  refine ⟨evaluateIn_aggregateOf hops hdepth ha hb f, aggregateResult_average_nil,
    fun xs => aggregateResult_of_numbers, fun c => resolveRange_eq_error_iff, ?_⟩
  intro d c hfirst h hextent hvalues
  have hrange : (resolveRange (m := Id) h a b ctx (evaluateIn h o)).run = .error c :=
    resolveRange_eq_error_iff.mpr ⟨d, hfirst.congr hextent hvalues⟩
  rw [evaluateIn_aggregateOf hops hdepth ha hb f, hrange]
  rfl

omit hops hdepth ha hb

def Grid.averageOfNone : Grid :=
  ((Grid.new ⟨2, 3⟩).set ⟨1, 1⟩ "7").set ⟨2, 1⟩ "=AVERAGE(C1:C1)"

theorem evaluateIn_averageOfNone (hextent : g.extent = Grid.averageOfNone.extent)
    (hdepth : ctx.depth ≤ Options.default.maxDepth) :
    evaluateIn g Options.default ctx "AVERAGE(C1:C1)" = .error .divZero := by
  have haddressable : (⟨3, 1⟩ : Coord).Addressable := by
    constructor <;> decide
  have hname : aggregateOf .average ((⟨3, 1⟩ : Coord).name ++ ":" ++ (⟨3, 1⟩ : Coord).name) = "AVERAGE(C1:C1)" := by
    decide +kernel
  have hnone : resolveRange (m := Id) g ⟨3, 1⟩ ⟨3, 1⟩ ctx (evaluateIn g Options.default) = pure [] := by
    unfold resolveRange
    rw [hextent]
    rfl
  rw [← hname, evaluateIn_aggregateOf rfl hdepth haddressable haddressable, hnone]
  rfl

theorem Grid.averageOfNone_firstFailure :
    Grid.averageOfNone.FirstFailure (.root ⟨1, 3⟩) (evaluateIn Grid.averageOfNone Options.default) ⟨2, 2⟩ ⟨1, 1⟩ ⟨2, 1⟩
      .divZero where
  clips := by constructor <;> decide
  fails := ⟨"AVERAGE(C1:C1)", by decide, evaluateIn_averageOfNone rfl (by decide)⟩
  before := by
    rintro ⟨x, y⟩ ⟨hleft, -, htop, -, -⟩ hbefore formula hformula
    have hfirst : (⟨x, y⟩ : Coord) = ⟨1, 1⟩ := by
      unfold Coord.Before at hbefore
      dsimp only at hleft htop hbefore
      rw [Coord.mk.injEq]
      omega
    rw [hfirst, show formula? (Grid.averageOfNone.get ⟨1, 1⟩) = none by decide] at hformula
    cases hformula

/-- The average in `B1` decides over the sum of the cells around it, also if the cell below it asks for itself. -/
theorem evaluateIn_aggregate_averageOfNone :
    evaluateIn Grid.averageOfNone Options.default (.root ⟨1, 3⟩) "SUM(B2:A1)" = .error .divZero ∧
      evaluateIn (Grid.averageOfNone.set ⟨2, 2⟩ "=SUM(B2:B2)") Options.default (.root ⟨1, 3⟩) "SUM(B2:A1)" =
        .error .divZero := by
  have hname : aggregateOf .sum ((⟨2, 2⟩ : Coord).name ++ ":" ++ (⟨1, 1⟩ : Coord).name) = "SUM(B2:A1)" := by
    decide +kernel
  obtain ⟨hvalue, -, -, herror, hafter⟩ := evaluateIn_aggregate (g := Grid.averageOfNone) (o := Options.default) rfl
    (show (Context.root ⟨1, 3⟩).depth ≤ _ from Nat.zero_le _)
    (show (⟨2, 2⟩ : Coord).Addressable by constructor <;> decide)
    (show (⟨1, 1⟩ : Coord).Addressable by constructor <;> decide) .sum
  rw [hname, (herror .divZero).mpr ⟨_, Grid.averageOfNone_firstFailure⟩] at hvalue
  refine ⟨hvalue, ?_⟩
  rw [← hname]
  refine hafter _ _ Grid.averageOfNone_firstFailure _ rfl ?_
  rintro ⟨x, y⟩ ⟨hleft, hright, htop, -, -⟩ hup
  have hplace : (⟨x, y⟩ : Coord) = ⟨1, 1⟩ ∨ (⟨x, y⟩ : Coord) = ⟨2, 1⟩ := by
    unfold Coord.Before at hup
    dsimp only at hleft hright htop hup
    rw [Coord.mk.injEq, Coord.mk.injEq]
    omega
  obtain hplace | hplace := hplace <;> rw [hplace]
  · rw [rangeValue_literal (by decide +kernel), rangeValue_literal (by decide +kernel), Grid.get_set,
      if_neg (by decide)]
  · have hformula : formula? (Grid.averageOfNone.get ⟨2, 1⟩) = some "AVERAGE(C1:C1)" := by
      decide +kernel
    rw [rangeValue_formula hformula, rangeValue_formula (by rw [Grid.get_set, if_neg (by decide), hformula])]
    exact (evaluateIn_averageOfNone (Grid.extent_set _ _ _) (by decide)).trans
      (evaluateIn_averageOfNone rfl (by decide)).symm

end Worksheet
