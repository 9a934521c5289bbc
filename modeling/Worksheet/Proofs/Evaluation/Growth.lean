import Worksheet.Proofs.Evaluation.Limits
import Worksheet.Proofs.Evaluation.Places

/-!
# Sheets that have grown

A sheet that grows shows at most more: in ranges, the places that it gains are empty and hold no numbers.

* `rangeNumbers_eq` : the numbers of a range, place by place;
* `Grid.GrownFrom` : a sheet that has grown; `Grid.GrownFrom.exists_range` : a range in it has the same numbers;
* `Elementary`, `Grid.IsElementary` : names and aggregates of ranges, and sheets without other formulas;
  `Elementary.reached` : evaluation goes on from such a formula to such formulas only;
* `Grid.GrownFrom.evaluateStep`, `Grid.GrownFrom.evaluateIn` : a step that answers does so in the sheet that has
  grown, and so does an evaluation.
-/

namespace Worksheet

open Script

/-! ## Numbers of ranges -/

theorem flatMap_eq_of_forall₂ {α β γ : Type} {R : α → β → Prop} {f : α → List γ} {g : β → List γ} {xs : List α}
    {ys : List β} (h : List.Forall₂ R xs ys) (hR : ∀ x y, R x y → f x = g y) : xs.flatMap f = ys.flatMap g := by
  induction h with
  | nil => rfl
  | cons hxy _ ih => rw [List.flatMap_cons, List.flatMap_cons, hR _ _ hxy, ih]

section

variable {g : Grid} {ctx : Context} {nested : Context → String → Result}

def numbersAt (g : Grid) (ctx : Context) (nested : Context → String → Result) (d : Coord) : List Float :=
  match rangeValue g ctx nested d with
  | .ok v => numbers v.inRange
  | .error _ => []

theorem numbersAt_eq {d : Coord} {v : CellValue} (h : rangeValue g ctx nested d = .ok v) :
    numbersAt g ctx nested d = numbers v.inRange := by
  rw [numbersAt, h]

theorem rangeNumbers_eq {a b : Coord} {rows : List (List CellValue)}
    (h : (resolveRange (m := Id) g a b ctx nested).run = .ok rows) :
    rangeNumbers rows =
      ((Rectangle.around a b).cells.filter g.extent.contains).flatMap (numbersAt g ctx nested) := by
  have hcells : (((Rectangle.around a b).cells.filter g.extent.contains).mapM
      (rangeCell (m := Id) g ctx nested)).run = .ok rows.flatten := by
    rw [← resolveRange_flatten, h]
    rfl
  exact (flatMap_eq_of_forall₂ (mapM_eq_ok_iff.mp hcells) fun d v hv => numbersAt_eq hv).symm

end

/-! ## Growth -/

/-- A sheet that has grown from another one: every place reads as before, the extent holds what it held, and no text
was stored past it. -/
structure Grid.GrownFrom (h g : Grid) : Prop where
  get : ∀ c, h.get c = g.get c
  contains : ∀ c, g.extent.contains c = true → h.extent.contains c = true
  beyond : ∀ c, g.extent.contains c = false → g.get c = ""

/-- A formula that is the name of a cell, or an aggregate of the range between two cells. -/
inductive Elementary : String → Prop
  | name {b : Coord} (hb : b.Addressable) : Elementary b.name
  | aggregate (f : Aggregate) {a b : Coord} (ha : a.Addressable) (hb : b.Addressable) :
      Elementary (aggregateOf f (a.name ++ ":" ++ b.name))

/-- Whether every formula of a sheet is elementary. -/
def Grid.IsElementary (g : Grid) : Prop :=
  ∀ c formula, formula? (g.get c) = some formula → Elementary formula

namespace Grid.IsElementary

theorem new (extent : Extent) : (Grid.new extent).IsElementary := by
  intro c formula hformula
  rw [Grid.get_new] at hformula
  cases hformula

variable {g : Grid} (hg : g.IsElementary)
include hg

theorem set_literal (c : Coord) {raw : String} (hraw : formula? raw = none) : (g.set c raw).IsElementary := by
  intro d formula hformula
  rw [Grid.get_set] at hformula
  split at hformula
  · cases hraw.symm.trans hformula
  · exact hg d formula hformula

theorem set_formula (c : Coord) {raw formula : String} (hformula : Elementary formula)
    (hraw : raw = ofFormula formula) : (g.set c raw).IsElementary := by
  intro d next hnext
  rw [Grid.get_set] at hnext
  split at hnext
  · rw [hraw, formula?_ofFormula] at hnext
    cases hnext
    exact hformula
  · exact hg d next hnext

end Grid.IsElementary

section

variable {g : Grid} {limit : Nat} (hlimit : Suffices limit) {nested : Context → String → Result} {ctx : Context}
include hlimit

theorem exists_of_evaluateStep_aggregate {f : Aggregate} {a b : Coord} (ha : a.Addressable) (hb : b.Addressable)
    {v : CellValue} (h : evaluateStep g limit nested ctx (aggregateOf f (a.name ++ ":" ++ b.name)) = .ok v) :
    ∃ rows x, (resolveRange (m := Id) g a b ctx nested).run = .ok rows ∧ f.ofNumbers (rangeNumbers rows) = .ok x ∧
      (Value.float x).toCell = .ok v ∧ v = .number x := by
  rw [evaluateStep_aggregate_range hlimit nested ctx f ha hb] at h
  cases hrows : (resolveRange (m := Id) g a b ctx nested).run with
  | error c =>
    rw [hrows] at h
    cases h
  | ok rows =>
    rw [hrows, Except.bind] at h
    cases hx : f.ofNumbers (rangeNumbers rows) with
    | error c =>
      rw [hx] at h
      cases h
    | ok x =>
      rw [hx, Except.bind] at h
      refine ⟨rows, x, rfl, hx, h, ?_⟩
      rcases toCell_float_cases x with hcell | hcell | hcell
      · cases hcell.symm.trans h
      · cases hcell.symm.trans h
      · exact Except.ok.inj (h.symm.trans hcell)

/-- Evaluation goes on from an elementary formula only to one that is stored. -/
theorem Elementary.goes (hg : g.IsElementary) {formula next : String} (hformula : Elementary formula)
    (h : Goes (evaluateStep g limit nested ctx) formula next) : Elementary next := by
  cases hformula with
  | @name b hb =>
    obtain ⟨v, hv, hnext⟩ := h
    rw [evaluateStep_name hlimit nested ctx hb, resolveCell] at hv
    split at hv
    · cases hv
    · split at hv
      · cases hv
      · cases hv
        cases hstored : formula? (g.get b) with
        | none =>
          rw [CellValue.formula?_display_ofRaw hstored] at hnext
          cases hnext
        | some inner =>
          rw [eq_ofFormula_of_formula? hstored, CellValue.display_ofRaw_ofFormula, formula?_ofFormula] at hnext
          cases hnext
          exact hg b next hstored
  | aggregate f ha hb =>
    obtain ⟨v, hv, -⟩ := id h
    obtain ⟨-, x, -, -, -, rfl⟩ := exists_of_evaluateStep_aggregate hlimit ha hb hv
    exact absurd h (not_goes_of_number hv)

theorem Elementary.reached (hg : g.IsElementary) {formula next : String} (hformula : Elementary formula)
    (h : Relation.ReflTransGen (Goes (evaluateStep g limit nested ctx)) formula next) : Elementary next := by
  induction h with
  | refl => exact hformula
  | tail _ hlast ih => exact ih.goes hlimit hg hlast

end

namespace Grid.GrownFrom

variable {g h : Grid} (hgrown : h.GrownFrom g) {ctx : Context} {nested nested' : Context → String → Result}
  (hnested : ∀ d inner, formula? (g.get d) = some inner →
    ∀ v, nested (ctx.nested d) inner = .ok v → nested' (ctx.nested d) inner = .ok v)
include hgrown

theorem numbersAt_beyond {d : Coord} (hd : g.extent.contains d = false) : numbersAt h ctx nested' d = [] := by
  have hget : h.get d = "" := (hgrown.get d).trans (hgrown.beyond d hd)
  have hvalue : rangeValue h ctx nested' d = .ok (.text (h.get d)) := rangeValue_literal (by rw [hget]; rfl)
  rw [numbersAt_eq hvalue, hget]
  rfl

include hnested

theorem rangeValue {d : Coord} {v : CellValue} (hv : rangeValue g ctx nested d = .ok v) :
    Worksheet.rangeValue h ctx nested' d = .ok v := by
  cases hformula : formula? (g.get d) with
  | none =>
    rw [rangeValue_literal hformula] at hv
    rw [← hgrown.get d] at hformula hv
    rw [rangeValue_literal hformula, hv]
  | some inner =>
    rw [rangeValue_formula hformula] at hv
    rw [rangeValue_formula (by rw [hgrown.get d, hformula])]
    exact hnested d inner hformula v hv

theorem exists_range {a b : Coord} {rows : List (List CellValue)}
    (hrows : (resolveRange (m := Id) g a b ctx nested).run = .ok rows) :
    ∃ rows', (resolveRange (m := Id) h a b ctx nested').run = .ok rows' ∧ rangeNumbers rows' = rangeNumbers rows := by
  have hold : ∀ d, g.extent.Clips a b d → ∃ v, Worksheet.rangeValue g ctx nested d = .ok v ∧
      Worksheet.rangeValue h ctx nested' d = .ok v := by
    intro d hd
    obtain ⟨-, v, -, -, hv⟩ := getElem?_of_resolveRange hrows hd
    exact ⟨v, hv, hgrown.rangeValue hnested hv⟩
  have hanswers : ∀ d, h.extent.Clips a b d → ∃ v, Worksheet.rangeValue h ctx nested' d = .ok v ∧ True := by
    intro d hd
    cases hin : g.extent.contains d with
    | true =>
      obtain ⟨v, -, hv⟩ := hold d ⟨hd.left, hd.right, hd.top, hd.bottom, hin⟩
      exact ⟨v, hv, trivial⟩
    | false =>
      have hget : h.get d = "" := (hgrown.get d).trans (hgrown.beyond d hin)
      exact ⟨_, rangeValue_literal (by rw [hget]; rfl), trivial⟩
  obtain ⟨rows', hrows', -⟩ := resolveRange_ok hanswers
  refine ⟨rows', hrows', ?_⟩
  rw [rangeNumbers_eq hrows, rangeNumbers_eq hrows']
  calc ((Rectangle.around a b).cells.filter h.extent.contains).flatMap (numbersAt h ctx nested')
      = (((Rectangle.around a b).cells.filter h.extent.contains).filter g.extent.contains).flatMap
          (numbersAt h ctx nested') := (flatMap_filter_of_nil fun d _ hd => hgrown.numbersAt_beyond hd).symm
    _ = ((Rectangle.around a b).cells.filter g.extent.contains).flatMap (numbersAt h ctx nested') := by
        rw [List.filter_filter]
        congr 1
        refine List.filter_congr fun d _ => ?_
        cases hin : g.extent.contains d with
        | false => rw [Bool.false_and]
        | true => rw [hgrown.contains d hin, Bool.and_self]
    _ = ((Rectangle.around a b).cells.filter g.extent.contains).flatMap (numbersAt g ctx nested) := by
        refine List.flatMap_congr fun d hd => ?_
        obtain ⟨v, hv, hv'⟩ := hold d ((Rectangle.mem_filter_cells_around g.extent a b d).mp hd)
        rw [numbersAt_eq hv, numbersAt_eq hv']

theorem evaluateStep {limit : Nat} (hlimit : Suffices limit) {formula : String} (hformula : Elementary formula)
    {v : CellValue} (hv : evaluateStep g limit nested ctx formula = .ok v) :
    Worksheet.evaluateStep h limit nested' ctx formula = .ok v := by
  cases hformula with
  | @name b hb =>
    rw [evaluateStep_name hlimit nested ctx hb, resolveCell] at hv
    rw [evaluateStep_name hlimit nested' ctx hb, resolveCell]
    cases hin : g.extent.contains b with
    | false =>
      rw [hin] at hv
      cases hv
    | true =>
      rw [hin] at hv
      rw [hgrown.contains b hin, hgrown.get b]
      exact hv
  | aggregate f ha hb =>
    obtain ⟨rows, x, hrows, hx, hcell, -⟩ := exists_of_evaluateStep_aggregate hlimit ha hb hv
    obtain ⟨rows', hrows', hnumbers⟩ := hgrown.exists_range hnested hrows
    rw [evaluateStep_aggregate_range hlimit nested' ctx f ha hb, hrows', Except.bind, hnumbers, hx]
    exact hcell

omit hnested

theorem evaluateIn (hg : g.IsElementary) {o : Options} (hlimit : Suffices o.maxOperations) {ctx : Context}
    {formula : String} (hformula : Elementary formula) {v : CellValue} (hv : evaluateIn g o ctx formula = .ok v) :
    Worksheet.evaluateIn h o ctx formula = .ok v := by
  -- from the deepest level outwards: the formulas of ranges lie one level deeper
  induction ctx using o.level_induction generalizing formula v with
  | past ctx hdepth =>
    rw [evaluateIn_of_lt g hdepth] at hv
    cases hv
  | within ctx hdepth ih =>
    rw [evaluateIn_eq g hdepth] at hv
    rw [evaluateIn_eq h hdepth]
    refine followChain_of_more (fun next hnext w hw => ?_) (Nat.le_refl _) hv
    have hnested : ∀ d inner, formula? (g.get d) = some inner →
        ∀ u, Worksheet.evaluateIn g o (ctx.nested d) inner = .ok u →
          Worksheet.evaluateIn h o (ctx.nested d) inner = .ok u :=
      fun d inner hinner u hu => ih d (hg d inner hinner) hu
    exact hgrown.evaluateStep hnested hlimit (hformula.reached hlimit hg hnext) hw

end Grid.GrownFrom

end Worksheet
