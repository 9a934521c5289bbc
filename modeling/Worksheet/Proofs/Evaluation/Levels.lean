import Worksheet.Proofs.Evaluation.Ranges
import Worksheet.Proofs.Evaluation.Steps

/-!
# The levels of evaluation

The evaluator nests itself: what a range is answered comes from the evaluation of its formulas, each for its own
cell and one level deeper.

* `answer_congr_cells` : only the cells that a lookup reaches matter;
* `evaluateIn_of_lt` : past the deepest level there is no evaluation;
* `evaluateIn_eq` : within it, the evaluator is a chain of steps of which the nested evaluations are its own;
* `evaluateIn_of_number` : the chain ends with a number;
* `Options.level_induction` : induction on the levels that are left.
-/

namespace Worksheet

open Script

/-! ## Lookups -/

/-- Whether a lookup reaches a place: a cell reaches its own, a range those that the extent clips, and a lookup at a
negative place none. -/
def Grid.Reaches (g : Grid) : Lookup → Coord → Prop
  | .cell column row, d => d = CellRef.toCoord ⟨column, row⟩ ∧ g.extent.contains d = true
  | .range column₁ row₁ column₂ row₂, d =>
    g.extent.Clips (CellRef.toCoord ⟨column₁, row₁⟩) (CellRef.toCoord ⟨column₂, row₂⟩) d
  | .negative, _ => False

theorem Grid.Reaches.data {g : Grid} {q : Lookup} {d : Coord} (h : g.Reaches q d) :
    d.isHeader = false ∧ g.extent.contains d = true := by
  cases q with
  | cell column row =>
    obtain ⟨rfl, hin⟩ := h
    exact ⟨CellRef.toCoord_isHeader _, hin⟩
  | range column₁ row₁ column₂ row₂ =>
    obtain ⟨hleft, -, htop, -, hin⟩ := h
    dsimp only [CellRef.toCoord] at hleft htop
    refine ⟨?_, hin⟩
    rw [Coord.isHeader, decide_eq_false (by omega), decide_eq_false (by omega), Bool.or_false]
  | negative => exact h.elim

theorem answer_congr_cells {g h : Grid} {nested nested' : Context → String → Result} {ctx : Context}
    (hextent : g.extent = h.extent) {q : Lookup} (hget : ∀ d, g.Reaches q d → g.get d = h.get d)
    (hnested : ∀ d formula, nested (ctx.nested d) formula = nested' (ctx.nested d) formula) :
    answer g nested ctx q = answer h nested' ctx q := by
  cases q with
  | cell column row =>
    have hresolve : resolveCell g (CellRef.toCoord ⟨column, row⟩) ctx =
        resolveCell h (CellRef.toCoord ⟨column, row⟩) ctx := by
      unfold resolveCell
      rw [← hextent]
      cases hin : g.extent.contains (CellRef.toCoord ⟨column, row⟩) with
      | false => rfl
      | true => rw [hget _ ⟨rfl, hin⟩]
    rw [answer, answer, hresolve]
  | range column₁ row₁ column₂ row₂ =>
    have hresolve : resolveRange (m := Id) g (CellRef.toCoord ⟨column₁, row₁⟩) (CellRef.toCoord ⟨column₂, row₂⟩)
        ctx nested = resolveRange h (CellRef.toCoord ⟨column₁, row₁⟩) (CellRef.toCoord ⟨column₂, row₂⟩) ctx
          nested' := by
      refine resolveRange_congr_cells hextent fun d hd => ?_
      unfold rangeCell
      rw [hget d hd]
      cases formula? (h.get d) with
      | none => rfl
      | some formula => exact hnested d formula
    unfold answer
    dsimp only
    rw [hresolve]
  | negative => rfl

/-! ## Levels -/

section

variable [Engine]

/-- Past the deepest level a formula fails without being evaluated. -/
theorem evaluateIn_of_lt (g : Grid) {o : Options} {ctx : Context} (h : o.maxDepth < ctx.depth) (formula : String) :
    evaluateIn g o ctx formula = .error .recursionLimit :=
  if_pos h

/-- The formulas of ranges are evaluated by the evaluator itself. -/
theorem nestedWithin_eq_evaluateIn (g : Grid) {o : Options} {ctx : Context} (h : ctx.depth ≤ o.maxDepth) (d : Coord)
    (formula : String) :
    nestedWithin g o (o.maxDepth - ctx.depth) (ctx.nested d) formula = evaluateIn g o (ctx.nested d) formula := by
  have hdepth : (ctx.nested d).depth = ctx.depth + 1 := rfl
  cases hlevels : o.maxDepth - ctx.depth with
  | zero =>
    rw [evaluateIn_of_lt g (by omega)]
    rfl
  | succ levels =>
    rw [evaluateIn, if_neg (by omega), hdepth, show o.maxDepth - (ctx.depth + 1) = levels by omega,
      nestedWithin_succ]

/-- Up to the deepest level, evaluation is a chain of steps of which the nested evaluations are evaluations
again. -/
theorem evaluateIn_eq (g : Grid) {o : Options} {ctx : Context} (h : ctx.depth ≤ o.maxDepth) (formula : String) :
    evaluateIn g o ctx formula =
      followChain (evaluateStep g o.maxOperations (evaluateIn g o) ctx) o.maxChain formula := by
  have hanswer : answer g (nestedWithin g o (o.maxDepth - ctx.depth)) ctx = answer g (evaluateIn g o) ctx :=
    funext fun _ => answer_congr_cells rfl (fun _ _ => rfl) (nestedWithin_eq_evaluateIn g h)
  have hstep : evaluateStep g o.maxOperations (nestedWithin g o (o.maxDepth - ctx.depth)) ctx =
      evaluateStep g o.maxOperations (evaluateIn g o) ctx := by
    funext next
    rw [evaluateStep_eq_bind, evaluateStep_eq_bind, hanswer]
  rw [evaluateIn, if_neg (Nat.not_lt.mpr h), evaluateWithin_eq, hstep]

theorem evaluateIn_of_number {g : Grid} {o : Options} {ctx : Context} (h : ctx.depth ≤ o.maxDepth) {formula : String}
    {x : Float} (hstep : evaluateStep g o.maxOperations (evaluateIn g o) ctx formula = .ok (.number x)) :
    evaluateIn g o ctx formula = .ok (.number x) := by
  rw [evaluateIn_eq g h, followChain, hstep]
  simp only [CellValue.formula?_text]

end

/-- Induction from the deepest level outwards. -/
theorem Options.level_induction (o : Options) {P : Context → Prop} (past : ∀ ctx, o.maxDepth < ctx.depth → P ctx)
    (within : ∀ ctx, ctx.depth ≤ o.maxDepth → (∀ d, P (ctx.nested d)) → P ctx) (ctx : Context) : P ctx := by
  by_cases h : o.maxDepth < ctx.depth
  · exact past ctx h
  · exact within ctx (Nat.not_lt.mp h) fun d => o.level_induction past within (ctx.nested d)
termination_by o.maxDepth + 1 - ctx.depth
decreasing_by
  dsimp only [Context.nested]
  omega

end Worksheet
