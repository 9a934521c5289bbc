import Worksheet.Proofs.Evaluation.Levels
import Worksheet.Script.Interpreter

/-!
# Evaluation sees the data cells only

Two sheets of one size that read the same at every data cell evaluate the same, whatever they store in headers and
past the extent, and whichever rows they have.

* `Grid.SameData` : sheets that no formula can tell apart;
* `Grid.SameData.answer` : a lookup is answered the same in both;
* `evaluateIn_sameData` : and so is every formula at every level;
* `evaluateIn_data` : evaluation, the values of cells and what they show.
-/

namespace Worksheet

open Script

/-- Whether two sheets have one size and read the same at every data cell in it. -/
structure Grid.SameData (g h : Grid) : Prop where
  extent : g.extent = h.extent
  get : ∀ c : Coord, 1 ≤ c.x → c.x ≤ g.extent.maxX → 1 ≤ c.y → c.y ≤ g.extent.maxY → g.get c = h.get c

namespace Grid.SameData

variable {g h : Grid} (hsame : g.SameData h)
include hsame

theorem get_of_data {c : Coord} (hdata : c.isHeader = false) (hin : g.extent.contains c = true) :
    g.get c = h.get c := by
  obtain ⟨hx, hy⟩ := (g.extent.contains_iff c).mp hin
  rw [Coord.isHeader, Bool.or_eq_false_iff, decide_eq_false_iff_not, decide_eq_false_iff_not] at hdata
  exact hsame.get c (Nat.pos_of_ne_zero hdata.1) hx (Nat.pos_of_ne_zero hdata.2) hy

/-- A lookup reaches data cells only, so it is answered the same if the formulas it finds evaluate the same. -/
theorem answer {nested nested' : Context → String → Result} {ctx : Context}
    (hnested : ∀ d formula, nested (ctx.nested d) formula = nested' (ctx.nested d) formula) :
    answer g nested ctx = answer h nested' ctx := by
  funext q
  refine answer_congr_cells hsame.extent (fun d hd => ?_) hnested
  obtain ⟨hdata, hin⟩ := hd.data
  exact hsame.get_of_data hdata hin

end Grid.SameData

theorem evaluateIn_sameData [Engine] {g h : Grid} (hsame : g.SameData h) (o : Options) (ctx : Context)
    (formula : String) : evaluateIn g o ctx formula = evaluateIn h o ctx formula := by
  -- from the deepest level outwards: the formulas of ranges lie one level deeper
  induction ctx using o.level_induction generalizing formula with
  | past ctx hdepth => rw [evaluateIn_of_lt g hdepth, evaluateIn_of_lt h hdepth]
  | within ctx hdepth ih =>
    have hstep : evaluateStep g o.maxOperations (evaluateIn g o) ctx =
        evaluateStep h o.maxOperations (evaluateIn h o) ctx := by
      funext next
      rw [evaluateStep_eq_bind, evaluateStep_eq_bind, hsame.answer ih]
    rw [evaluateIn_eq g hdepth, evaluateIn_eq h hdepth, hstep]

/-- Whatever engine runs the scripts, evaluation depends on the data cells in the extent alone: if two sheets have one
size and read the same there, then every formula has one result in both, in every context and with all options, and so
have the cells themselves and what they show. -/
theorem evaluateIn_data [Engine] {g h : Grid} (hsame : g.SameData h) :
    (∀ o ctx formula, evaluateIn g o ctx formula = evaluateIn h o ctx formula) ∧
    ∀ o (c : Coord), 1 ≤ c.x → c.x ≤ g.extent.maxX → 1 ≤ c.y → c.y ≤ g.extent.maxY →
      evaluateCell g o c = evaluateCell h o c ∧
      computeDisplay g o c (g.get c) = computeDisplay h o c (h.get c) := by
  have hevaluate : ∀ o c, evaluate g o c = evaluate h o c := fun o c =>
    funext fun formula => evaluateIn_sameData hsame o (.root c) formula
  refine ⟨evaluateIn_sameData hsame, fun o c hx hx' hy hy' => ?_⟩
  have hget : g.get c = h.get c := hsame.get c hx hx' hy hy'
  constructor
  · rw [evaluateCell, evaluateCell, hget, hevaluate]
  · rw [computeDisplay, computeDisplay, hget, hevaluate]

/-- `A2` sums up the first row. A header, a cell past the extent and an empty text are stored as well. -/
def Grid.crowded : Grid :=
  (((((Grid.new ⟨2, 2⟩).set ⟨1, 1⟩ "4").set ⟨1, 2⟩ "=SUM(A1:B1)").set ⟨0, 1⟩ "=1/0").set ⟨1, 3⟩ "7").set ⟨2, 2⟩ ""

def Grid.sparse : Grid :=
  ((Grid.new ⟨2, 2⟩).set ⟨1, 1⟩ "4").set ⟨1, 2⟩ "=SUM(A1:B1)"

theorem Grid.crowded_sameData_sparse : Grid.crowded.SameData Grid.sparse where
  extent := rfl
  get := by
    rintro ⟨x, y⟩ hx hx' hy hy'
    have hx2 : x ≤ 2 := hx'
    have hy2 : y ≤ 2 := hy'
    dsimp only at hx hy
    obtain rfl | rfl : x = 1 ∨ x = 2 := by omega
    all_goals obtain rfl | rfl : y = 1 ∨ y = 2 := by omega
    all_goals rfl

theorem evaluateIn_data_crowded :
    Grid.crowded.SameData Grid.sparse ∧ Grid.crowded.get ⟨0, 1⟩ ≠ Grid.sparse.get ⟨0, 1⟩ ∧
      Grid.crowded.hasRow 3 ≠ Grid.sparse.hasRow 3 ∧
      (∀ o ctx formula, evaluateIn Grid.crowded o ctx formula = evaluateIn Grid.sparse o ctx formula) ∧
      evaluateCell Grid.crowded .default ⟨1, 2⟩ = evaluateCell Grid.sparse .default ⟨1, 2⟩ ∧
      computeDisplay Grid.crowded .default ⟨1, 2⟩ (Grid.crowded.get ⟨1, 2⟩) =
        computeDisplay Grid.sparse .default ⟨1, 2⟩ (Grid.sparse.get ⟨1, 2⟩) := by
  obtain ⟨hall, hcells⟩ := evaluateIn_data Grid.crowded_sameData_sparse
  have hcell := hcells .default ⟨1, 2⟩ (by decide) (by decide) (by decide) (by decide)
  exact ⟨Grid.crowded_sameData_sparse, by decide, by decide, hall, hcell.1, hcell.2⟩

end Worksheet
