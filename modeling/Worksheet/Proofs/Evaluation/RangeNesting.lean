import Mathlib.Logic.Relation
import Worksheet.Proofs.Evaluation.Ranges
import Worksheet.Proofs.Evaluation.Steps
import Worksheet.Proofs.Script.Aggregates

/-!
# Sheets of ranges

In a sheet whose formulas are all `MIN`, `MAX` or `COUNT` of a range, the evaluation of a cell fails if and
only if formulas are nested in it more deeply than they may be.

* `Grid.Spans`, `Grid.RangeOnly` : cells that store an aggregate of a range, and sheets without other formulas;
* `Grid.Depends`, `Grid.HasWalk` : the formulas in the range of a formula, and walks from one to the next;
* `Nests` : what is known of the evaluation of nested formulas;
* `Nests.step`, `nests_nestedWithin` : one level and all of them;
* `evaluateCell_rangeOnly` : the evaluation of a cell.
-/

namespace Worksheet

open Script

/-! ## Dependencies -/

/-- Whether a cell stores an aggregate that chooses or counts, of the range between two cells in reach. -/
structure Grid.Spans (g : Grid) (p : Coord) (f : Aggregate) (a b : Coord) : Prop where
  choosing : f ∈ Aggregate.choosing
  start : a.Addressable
  stop : b.Addressable
  stored : g.get p = ofFormula (aggregateOf f (a.name ++ ":" ++ b.name))

def Grid.RangeOnly (g : Grid) : Prop :=
  ∀ p, (formula? (g.get p)).isSome → ∃ f a b, g.Spans p f a b

/-- A formula cell depends on each formula cell that lies in its range and in the extent. -/
def Grid.Depends (g : Grid) (p d : Coord) : Prop :=
  (formula? (g.get d)).isSome ∧ ∃ f a b, g.Spans p f a b ∧ g.extent.Clips a b d

def Grid.HasWalk (g : Grid) (n : Nat) (p : Coord) : Prop :=
  ∃ c : Nat → Coord, c 0 = p ∧ ∀ k < n, g.Depends (c k) (c (k + 1))

theorem Grid.hasWalk_zero (g : Grid) (p : Coord) : g.HasWalk 0 p :=
  ⟨fun _ => p, rfl, fun _ hk => absurd hk (Nat.not_lt_zero _)⟩

theorem Grid.hasWalk_succ (g : Grid) (n : Nat) (p : Coord) :
    g.HasWalk (n + 1) p ↔ ∃ d, g.Depends p d ∧ g.HasWalk n d := by
  constructor
  · rintro ⟨c, rfl, hc⟩
    refine ⟨c 1, hc 0 (Nat.succ_pos n), fun k => c (k + 1), rfl, fun k hk => ?_⟩
    exact hc (k + 1) (Nat.succ_lt_succ hk)
  · rintro ⟨d, hd, c, rfl, hc⟩
    refine ⟨fun k => Nat.casesOn k p c, rfl, fun k hk => ?_⟩
    cases k with
    | zero => exact hd
    | succ k => exact hc k (Nat.lt_of_succ_lt_succ hk)

/-- From where a cycle can be reached there are walks of any length. -/
theorem Grid.hasWalk_of_cycle {g : Grid} {p a : Coord} (hreach : Relation.ReflTransGen g.Depends p a)
    (hcycle : Relation.TransGen g.Depends a a) (n : Nat) : g.HasWalk n p := by
  induction n generalizing p with
  | zero => exact g.hasWalk_zero p
  | succ n ih =>
    rw [Grid.hasWalk_succ]
    obtain rfl | ⟨d, hd, hreach⟩ := hreach.cases_head
    · obtain ⟨d, hd, hreach⟩ := Relation.TransGen.head'_iff.mp hcycle
      exact ⟨d, hd, ih hreach⟩
    · exact ⟨d, hd, ih hreach⟩

/-! ## Values in a range -/

def CellValue.CountsFinite (v : CellValue) : Prop :=
  ∀ x ∈ numbers v.inRange, x.isFinite = true

theorem CellValue.countsFinite_number {x : Float} (hx : x.isFinite = true) : (number x).CountsFinite := by
  intro y hy
  obtain rfl : y = x := by simpa [CellValue.inRange, numbers] using hy
  exact hx

theorem CellValue.countsFinite_text (s : String) : (text s).CountsFinite := by
  intro y hy
  rw [CellValue.inRange] at hy
  cases hs : CellValue.ofRaw s with
  | number x =>
    obtain rfl : y = x := by simpa [hs, CellValue.toScript, numbers] using hy
    exact isFinite_of_ofRaw hs
  | text t => simp [hs, CellValue.toScript, numbers] at hy

theorem length_rangeNumbers_le (rows : List (List CellValue)) :
    (rangeNumbers rows).length ≤ rows.flatten.length := by
  rw [rangeNumbers_eq_filterMap]
  exact List.length_filterMap_le _ _

theorem isFinite_rangeNumbers {rows : List (List CellValue)} (h : ∀ row ∈ rows, ∀ v ∈ row, v.CountsFinite) :
    ∀ x ∈ rangeNumbers rows, x.isFinite = true := by
  intro x hx
  obtain ⟨v, hv, hx⟩ := List.mem_flatMap.mp hx
  obtain ⟨row, hrow, hv⟩ := List.mem_flatten.mp hv
  exact h row hrow v hv x hx

/-! ## One level -/

/-- What is known of a way of evaluating nested formulas: those at some cells fail with the limit, and those
at the others answer a finite number. -/
structure Nests (g : Grid) (fails : Coord → Prop) (nested : Context → String → Result) : Prop where
  error : ∀ {d formula}, formula? (g.get d) = some formula → fails d →
    ∀ ctx, nested ctx formula = .error .recursionLimit
  ok : ∀ {d formula}, formula? (g.get d) = some formula → ¬fails d →
    ∀ ctx, ∃ x, nested ctx formula = .ok (.number x) ∧ x.isFinite = true

section

variable {g : Grid} {fails : Coord → Prop} {nested : Context → String → Result} (h : Nests g fails nested)
  {limit : Nat} (hlimit : Suffices limit) {p : Coord} {f : Aggregate} {a b : Coord} (hp : g.Spans p f a b)
include h

/-- A cell in a range answers, unless it is one of the formulas that fail. -/
theorem Nests.rangeValue_ok {d : Coord} (hd : (formula? (g.get d)).isSome → ¬fails d) (ctx : Context) :
    ∃ v, rangeValue g ctx nested d = .ok v ∧ v.CountsFinite := by
  cases hformula : formula? (g.get d) with
  | none => exact ⟨_, rangeValue_literal hformula, CellValue.countsFinite_text _⟩
  | some formula =>
    obtain ⟨x, hx, hfinite⟩ := h.ok hformula (hd (by rw [hformula]; rfl)) (ctx.nested d)
    exact ⟨_, (rangeValue_formula hformula).trans hx, CellValue.countsFinite_number hfinite⟩

theorem Nests.rangeValue_error {d : Coord} (hd : (formula? (g.get d)).isSome) (hfails : fails d) (ctx : Context) :
    rangeValue g ctx nested d = .error .recursionLimit := by
  obtain ⟨formula, hformula⟩ := Option.isSome_iff_exists.mp hd
  rw [rangeValue_formula hformula, h.error hformula hfails]

include hlimit hp

theorem Nests.followChain_ok (hok : ∀ d, g.extent.Clips a b d → (formula? (g.get d)).isSome → ¬fails d)
    (ctx : Context) (more : Nat) :
    ∃ x, followChain (evaluateStep g limit nested ctx) more (aggregateOf f (a.name ++ ":" ++ b.name)) =
      .ok (.number x) ∧ x.isFinite = true := by
  obtain ⟨rows, hrows, hfinite, hlength⟩ :=
    resolveRange_ok fun d hd => h.rangeValue_ok (hok d hd) ctx
  have hcount : (rangeNumbers rows).length < 2 ^ 128 :=
    Nat.lt_of_le_of_lt (Nat.le_trans (length_rangeNumbers_le rows) (hlength hp.start hp.stop)) (by decide)
  obtain ⟨x, hx, hxfinite⟩ := Aggregate.exists_ofNumbers hp.choosing (isFinite_rangeNumbers hfinite) hcount
  refine ⟨x, ?_, hxfinite⟩
  have hstep : evaluateStep g limit nested ctx (aggregateOf f (a.name ++ ":" ++ b.name)) = .ok (.number x) := by
    rw [evaluateStep_aggregate_range hlimit nested ctx f hp.start hp.stop, hrows]
    show Except.bind (f.ofNumbers (rangeNumbers rows)) _ = _
    rw [hx]
    exact toCell_float hxfinite
  rw [followChain, hstep]
  simp only [CellValue.formula?_text]

theorem Nests.followChain_error {d : Coord} (hd : g.extent.Clips a b d) (hformula : (formula? (g.get d)).isSome)
    (hfails : fails d) (ctx : Context) (more : Nat) :
    followChain (evaluateStep g limit nested ctx) more (aggregateOf f (a.name ++ ":" ++ b.name)) =
      .error .recursionLimit := by
  have hvalues : ∀ c, g.extent.Clips a b c → rangeValue g ctx nested c = .error .recursionLimit ∨
      ∃ v, rangeValue g ctx nested c = .ok v := by
    intro c _
    by_cases hc : (formula? (g.get c)).isSome ∧ fails c
    · exact .inl (h.rangeValue_error hc.1 hc.2 ctx)
    · obtain ⟨v, hv, -⟩ := h.rangeValue_ok (fun hsome hfails => hc ⟨hsome, hfails⟩) ctx
      exact .inr ⟨v, hv⟩
  have hstep : evaluateStep g limit nested ctx (aggregateOf f (a.name ++ ":" ++ b.name)) =
      .error .recursionLimit := by
    rw [evaluateStep_aggregate_range hlimit nested ctx f hp.start hp.stop,
      resolveRange_error hvalues ⟨d, hd, h.rangeValue_error hformula hfails ctx⟩]
    rfl
  rw [followChain, hstep]

end

/-- One more level: a formula fails if it depends on one that does. -/
theorem Nests.step {g : Grid} (hg : g.RangeOnly) {fails : Coord → Prop} {nested : Context → String → Result}
    (h : Nests g fails nested) {limit : Nat} (hlimit : Suffices limit) (more : Nat) :
    Nests g (fun p => ∃ d, g.Depends p d ∧ fails d) fun ctx =>
      followChain (evaluateStep g limit nested ctx) more := by
  constructor
  · rintro p formula hformula ⟨d, ⟨hd, f, a, b, hp, hclips⟩, hfails⟩ ctx
    rw [hp.stored, formula?_ofFormula] at hformula
    obtain rfl := Option.some.inj hformula
    exact h.followChain_error hlimit hp hclips hd hfails ctx more
  · intro p formula hformula hnone ctx
    obtain ⟨f, a, b, hp⟩ := hg p (by rw [hformula]; rfl)
    rw [hp.stored, formula?_ofFormula] at hformula
    obtain rfl := Option.some.inj hformula
    refine h.followChain_ok hlimit hp (fun d hclips hd hfails => ?_) ctx more
    exact hnone ⟨d, ⟨hd, f, a, b, hp, hclips⟩, hfails⟩

/-! ## All levels -/

section

variable {g : Grid} (hg : g.RangeOnly) {o : Options} (hlimit : Suffices o.maxOperations)
include hg hlimit

theorem nests_evaluateWithin {levels : Nat} (h : Nests g (g.HasWalk levels) (nestedWithin g o levels)) :
    Nests g (g.HasWalk (levels + 1)) (evaluateWithin g o levels) := by
  have hstep := h.step hg hlimit o.maxChain
  constructor
  · intro p formula hformula hwalk ctx
    rw [evaluateWithin_eq]
    exact hstep.error hformula ((g.hasWalk_succ levels p).mp hwalk) ctx
  · intro p formula hformula hnone ctx
    rw [evaluateWithin_eq]
    exact hstep.ok hformula (fun hwalk => hnone ((g.hasWalk_succ levels p).mpr hwalk)) ctx

theorem nests_nestedWithin (levels : Nat) : Nests g (g.HasWalk levels) (nestedWithin g o levels) := by
  induction levels with
  | zero => exact ⟨fun _ _ _ => rfl, fun {d} _ _ hnone => absurd (g.hasWalk_zero d) hnone⟩
  | succ levels ih => exact nests_evaluateWithin hg hlimit ih

end

/-- In a sheet of ranges the evaluation of a formula cell fails with the limit or answers a number. It fails if
and only if a walk of more than `maxDepth` dependencies starts there, and so wherever a cycle can be
reached. -/
theorem evaluateCell_rangeOnly {g : Grid} (hg : g.RangeOnly) {o : Options}
    (ho : o.maxOperations = Options.default.maxOperations) {p : Coord} (hp : (formula? (g.get p)).isSome) :
    (evaluateCell g o p = some (.error .recursionLimit) ∨ ∃ x, evaluateCell g o p = some (.ok (.number x))) ∧
      (evaluateCell g o p = some (.error .recursionLimit) ↔ g.HasWalk (o.maxDepth + 1) p) ∧
      ∀ a, Relation.ReflTransGen g.Depends p a → Relation.TransGen g.Depends a a →
        evaluateCell g o p = some (.error .recursionLimit) := by
  have hlimit : Suffices o.maxOperations := by
    rw [ho]
    exact suffices_default
  have hnests := nests_evaluateWithin hg hlimit (nests_nestedWithin hg hlimit o.maxDepth)
  obtain ⟨formula, hformula⟩ := Option.isSome_iff_exists.mp hp
  have hcell := evaluateCell_ofFormula (o := o) (eq_ofFormula_of_formula? hformula)
  have hfails : g.HasWalk (o.maxDepth + 1) p → evaluateCell g o p = some (.error .recursionLimit) := by
    intro hwalk
    rw [hcell, hnests.error hformula hwalk]
  have hanswers : ¬g.HasWalk (o.maxDepth + 1) p → ∃ x, evaluateCell g o p = some (.ok (.number x)) := by
    intro hnone
    obtain ⟨x, hx, -⟩ := hnests.ok hformula hnone (.root p)
    exact ⟨x, by rw [hcell, hx]⟩
  refine ⟨?_, ⟨fun herror => ?_, hfails⟩, fun a hreach hcycle => hfails (g.hasWalk_of_cycle hreach hcycle _)⟩
  · by_cases hwalk : g.HasWalk (o.maxDepth + 1) p
    · exact .inl (hfails hwalk)
    · exact .inr (hanswers hwalk)
  · by_contra hnone
    obtain ⟨x, hx⟩ := hanswers hnone
    rw [herror] at hx
    exact absurd hx (by simp)

/-- `A1` takes the greatest of `B1` and `C1`, and `B1` counts `A1`. -/
def Grid.rangeCycle : Grid :=
  (((Grid.new ⟨5, 5⟩).set ⟨1, 1⟩ "=MAX(B1:C1)").set ⟨2, 1⟩ "=COUNT(A1:A1)").set ⟨3, 1⟩ "3"

theorem Grid.rangeCycle_spans_first : Grid.rangeCycle.Spans ⟨1, 1⟩ .max ⟨2, 1⟩ ⟨3, 1⟩ where
  choosing := by decide
  start := by constructor <;> decide
  stop := by constructor <;> decide
  stored := by decide +kernel

theorem Grid.rangeCycle_spans_second : Grid.rangeCycle.Spans ⟨2, 1⟩ .count ⟨1, 1⟩ ⟨1, 1⟩ where
  choosing := by decide
  start := by constructor <;> decide
  stop := by constructor <;> decide
  stored := by decide +kernel

theorem Grid.rangeCycle_rangeOnly : Grid.rangeCycle.RangeOnly := by
  intro p hp
  by_cases h1 : p = ⟨1, 1⟩
  · exact ⟨_, _, _, h1 ▸ Grid.rangeCycle_spans_first⟩
  · by_cases h2 : p = ⟨2, 1⟩
    · exact ⟨_, _, _, h2 ▸ Grid.rangeCycle_spans_second⟩
    · simp only [Grid.rangeCycle, Grid.get_set, Grid.get_new, if_neg h1, if_neg h2] at hp
      split at hp <;> exact absurd hp (by decide)

theorem evaluateCell_rangeCycle :
    evaluateCell Grid.rangeCycle Options.default ⟨1, 1⟩ = some (.error .recursionLimit) := by
  have hfirst : Grid.rangeCycle.Depends ⟨1, 1⟩ ⟨2, 1⟩ :=
    ⟨by decide, _, _, _, Grid.rangeCycle_spans_first, by constructor <;> decide⟩
  have hsecond : Grid.rangeCycle.Depends ⟨2, 1⟩ ⟨1, 1⟩ :=
    ⟨by decide, _, _, _, Grid.rangeCycle_spans_second, by constructor <;> decide⟩
  exact (evaluateCell_rangeOnly Grid.rangeCycle_rangeOnly rfl (by decide)).2.2 _ .refl
    (.tail (.single hfirst) hsecond)

end Worksheet
