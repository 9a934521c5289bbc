import Mathlib.Data.List.Basic
import Mathlib.Order.MinMax
import Worksheet.Proofs.Evaluation.Ranges

/-!
# The places of a range

The places between two corners that lie in an extent, in the order in which a range takes them.

* `Rectangle.around` : the rectangle between two corners, wherever the sheet ends; `Rectangle.filter_cells_around`,
  `Rectangle.mem_filter_cells_around` : what an extent leaves of it;
* `Coord.Before`, `Rectangle.pairwise_cells` : rows come from the top, and the cells of a row from the left;
* `Grid.formulaCells` : the formulas of a range; `Grid.pairwise_formulaCells`, `Grid.mem_formulaCells`;
* `resolveRange_flatten` : a range takes its places one after the other;
* `Rectangle.ofCorners?_swap`, `Rectangle.ofCorners?_mirror` : which corners are given does not matter.
-/

namespace Worksheet

/-! ## Clipping -/

theorem flatMap_filter_of_nil {α β : Type} {p : α → Bool} {f : α → List β} {xs : List α}
    (h : ∀ x ∈ xs, p x = false → f x = []) : (xs.filter p).flatMap f = xs.flatMap f := by
  induction xs with
  | nil => rfl
  | cons x xs ih =>
    have hrest := ih fun y hy => h y (List.mem_cons_of_mem x hy)
    cases hx : p x with
    | true => rw [List.filter_cons_of_pos hx, List.flatMap_cons, List.flatMap_cons, hrest]
    | false =>
      rw [List.filter_cons_of_neg (by simp [hx]), List.flatMap_cons, h x List.mem_cons_self hx, hrest,
        List.nil_append]

theorem filter_le_range' (s n m : Nat) :
    (List.range' s n).filter (fun x => decide (x ≤ m)) = List.range' s (min n (m + 1 - s)) := by
  induction n generalizing s with
  | zero => rw [Nat.zero_min]; rfl
  | succ n ih =>
    rw [List.range'_succ]
    by_cases hs : s ≤ m
    · rw [List.filter_cons_of_pos (by simpa using hs), ih,
        show min (n + 1) (m + 1 - s) = min n (m + 1 - (s + 1)) + 1 by omega, List.range'_succ]
    · rw [List.filter_cons_of_neg (by simpa using hs), ih, show m + 1 - (s + 1) = 0 by omega,
        show m + 1 - s = 0 by omega, Nat.min_zero, Nat.min_zero]
      rfl

namespace Rectangle

/-- The places of a rectangle, row by row. -/
def cells (r : Rectangle) : List Coord :=
  r.rows.flatMap r.cellsOf

/-- The rectangle between two corners in any order, wherever the sheet ends. -/
def around (a b : Coord) : Rectangle where
  left := min a.x b.x
  top := min a.y b.y
  width := max a.x b.x - min a.x b.x + 1
  height := max a.y b.y - min a.y b.y + 1

theorem filter_cellsOf (e : Extent) (r : Rectangle) (y : Nat) :
    (r.cellsOf y).filter e.contains =
      if y ≤ e.maxY then (List.range' r.left (min r.width (e.maxX + 1 - r.left))).map fun x => ⟨x, y⟩ else [] := by
  rw [cellsOf, List.filter_map]
  by_cases hy : y ≤ e.maxY
  · have hcontains : (e.contains ∘ fun x => ⟨x, y⟩) = fun x => decide (x ≤ e.maxX) := by
      funext x
      simp [Extent.contains, hy]
    rw [if_pos hy, hcontains, filter_le_range']
  · have hcontains : (e.contains ∘ fun x => ⟨x, y⟩) = fun _ => false := by
      funext x
      simp [Extent.contains, hy]
    rw [if_neg hy, hcontains, List.filter_false]
    rfl

theorem min_length {l r m : Nat} (h : l ≤ r) :
    min (r - l + 1) (m + 1 - l) = if min r m < l then 0 else min r m - l + 1 := by
  split <;> omega

/-- The places between two corners that lie in an extent are those of the clipped rectangle, in its order. -/
theorem filter_cells_around (e : Extent) (a b : Coord) :
    (around a b).cells.filter e.contains = (ofCorners? e a b).elim [] cells := by
  have hrows : (around a b).cells.filter e.contains =
      (List.range' (min a.y b.y) (min (around a b).height (e.maxY + 1 - min a.y b.y))).flatMap fun y =>
        (List.range' (min a.x b.x) (min (around a b).width (e.maxX + 1 - min a.x b.x))).map fun x => ⟨x, y⟩ := by
    rw [cells, List.filter_flatMap, ← flatMap_filter_of_nil (p := fun y => decide (y ≤ e.maxY)),
      ← filter_le_range' (min a.y b.y)]
    · refine List.flatMap_congr fun y hy => ?_
      rw [filter_cellsOf, if_pos (of_decide_eq_true (List.mem_filter.mp hy).2)]
      rfl
    · intro y _ hy
      rw [filter_cellsOf, if_neg (of_decide_eq_false hy)]
  rw [hrows, show (around a b).width = max a.x b.x - min a.x b.x + 1 from rfl, min_length min_le_max,
    show (around a b).height = max a.y b.y - min a.y b.y + 1 from rfl, min_length min_le_max]
  unfold ofCorners?
  dsimp only
  by_cases hout : min (max a.x b.x) e.maxX < min a.x b.x ∨ min (max a.y b.y) e.maxY < min a.y b.y
  · rw [if_pos hout]
    rcases hout with hright | hbottom
    · rw [if_pos hright]
      simp
    · rw [if_pos hbottom]
      rfl
  · obtain ⟨hright, hbottom⟩ := not_or.mp hout
    rw [if_neg hout, if_neg hright, if_neg hbottom]
    rfl

theorem mem_filter_cells_around (e : Extent) (a b d : Coord) :
    d ∈ (around a b).cells.filter e.contains ↔ e.Clips a b d := by
  rw [filter_cells_around]
  cases hcorners : ofCorners? e a b with
  | none => exact iff_of_false List.not_mem_nil (not_clips hcorners d)
  | some r =>
    show d ∈ r.rows.flatMap r.cellsOf ↔ _
    rw [List.mem_flatMap, clips_iff hcorners]
    constructor
    · rintro ⟨y, hy, hd⟩
      obtain ⟨rfl, -⟩ := (r.mem_cellsOf y d).mp hd
      exact ⟨hy, hd⟩
    · rintro ⟨hy, hd⟩
      exact ⟨d.y, hy, hd⟩

theorem exists_clips {e : Extent} {a b : Coord} {r : Rectangle} (h : ofCorners? e a b = some r) :
    ∃ d, e.Clips a b d := by
  refine ⟨⟨r.left, r.top⟩, (clips_iff h _).mpr ⟨(r.mem_rows _).mpr ?_, (r.mem_cellsOf _ _).mpr ⟨rfl, le_rfl, ?_⟩⟩⟩
  all_goals
    unfold ofCorners? at h
    dsimp only at h
    split at h
    · exact absurd h (by simp)
    · obtain rfl := Option.some.inj h
      dsimp only
      omega

end Rectangle

/-! ## Order -/

/-- The order of rows from the top, and of the cells of a row from the left. -/
def Coord.Before (c d : Coord) : Prop :=
  c.y < d.y ∨ c.y = d.y ∧ c.x < d.x

theorem Coord.Before.irrefl (c : Coord) : ¬c.Before c := by
  rintro (h | ⟨-, h⟩)
  · exact Nat.lt_irrefl _ h
  · exact Nat.lt_irrefl _ h

theorem Coord.Before.asymm {c d : Coord} (h : c.Before d) : ¬d.Before c := by
  rintro h'
  unfold Coord.Before at h h'
  omega

theorem Rectangle.pairwise_cells (r : Rectangle) : r.cells.Pairwise Coord.Before := by
  rw [cells, List.pairwise_flatMap]
  constructor
  · intro y _
    rw [cellsOf, List.pairwise_map]
    exact (List.pairwise_lt_range' 1).imp fun h => .inr ⟨rfl, h⟩
  · refine (List.pairwise_lt_range' 1).imp fun {y z} hyz c hc d hd => .inl ?_
    rw [((r.mem_cellsOf y c).mp hc).1, ((r.mem_cellsOf z d).mp hd).1]
    exact hyz

/-! ## Formulas -/

def Grid.formulaCells (g : Grid) (a b : Coord) : List Coord :=
  ((Rectangle.around a b).cells.filter g.extent.contains).filter fun d => (formula? (g.get d)).isSome

theorem Grid.pairwise_formulaCells (g : Grid) (a b : Coord) : (g.formulaCells a b).Pairwise Coord.Before :=
  ((Rectangle.pairwise_cells _).filter _).filter _

theorem Grid.mem_formulaCells (g : Grid) (a b d : Coord) :
    d ∈ g.formulaCells a b ↔ g.extent.Clips a b d ∧ (formula? (g.get d)).isSome := by
  rw [formulaCells, List.mem_filter, Rectangle.mem_filter_cells_around]

/-! ## Ranges -/

/-- A range takes the places that lie in the extent one after the other, row by row. -/
theorem resolveRange_flatten {g : Grid} {a b : Coord} {ctx : Context} {evaluate : Context → String → Result} :
    (resolveRange (m := Id) g a b ctx evaluate).run.map List.flatten =
      (((Rectangle.around a b).cells.filter g.extent.contains).mapM (rangeCell (m := Id) g ctx evaluate)).run := by
  rw [Rectangle.filter_cells_around]
  unfold resolveRange
  cases Rectangle.ofCorners? g.extent a b with
  | none => rfl
  | some r =>
    have hrows : rangeRow (m := Id) g ctx evaluate r = fun y => (r.cellsOf y).mapM (rangeCell g ctx evaluate) := by
      funext y
      exact rangeRow_eq (m := Id) g ctx evaluate r y
    show (r.rows.mapM (rangeRow (m := Id) g ctx evaluate r)).run.map List.flatten =
      (r.cells.mapM (rangeCell (m := Id) g ctx evaluate)).run
    rw [Rectangle.cells, run_mapM_flatMap, hrows]

/-! ## Corners -/

theorem Rectangle.ofCorners?_swap (e : Extent) (a b : Coord) : ofCorners? e b a = ofCorners? e a b := by
  unfold ofCorners?
  rw [Nat.min_comm b.x, Nat.max_comm b.x, Nat.min_comm b.y, Nat.max_comm b.y]

theorem Rectangle.ofCorners?_mirror (e : Extent) (a b : Coord) :
    ofCorners? e ⟨a.x, b.y⟩ ⟨b.x, a.y⟩ = ofCorners? e a b := by
  unfold ofCorners?
  dsimp only
  rw [Nat.min_comm b.y, Nat.max_comm b.y]

end Worksheet
