import Worksheet.Proofs.Evaluation.RangeAggregates

/-!
# Aggregates of no numbers

A range may hold no numbers at all: its places are empty, hold other texts, or lie past the extent. Every aggregate
then has a case of its own, and the sum is the one that does not show as `0`.

* `exists_rows_without_numbers`, `evaluateIn_aggregate_nil` : a range of places without numbers, formulas included;
* `Grid.Numberless` : ranges that hold neither formulas nor numerals; `Grid.Numberless.beyond` : ranges past the extent;
* `evaluate_numberless` : what the aggregates of such a range answer, and how it shows.
-/

namespace Worksheet

open Script

/-! ## Aggregates of nothing -/

theorem aggregateResult_sum_nil : aggregateResult .sum [] = .ok (.number (-0.0)) := by
  have hfinite : (-0.0 : Float).isFinite = true := by decide
  rw [aggregateResult, show Aggregate.sum.ofNumbers [] = .ok (-0.0) from rfl]
  exact toCell_float hfinite

theorem aggregateResult_nil {f : Aggregate} (hsum : f ≠ .sum) (haverage : f ≠ .average) :
    aggregateResult f [] = .ok (.number 0.0) := by
  have hfinite : (0.0 : Float).isFinite = true := by decide
  have hnumber : f.ofNumbers [] = .ok 0.0 := by
    cases f with
    | sum => exact absurd rfl hsum
    | average => exact absurd rfl haverage
    | min => rfl
    | max => rfl
    | count => exact congrArg Except.ok (by decide +kernel)
  rw [aggregateResult, hnumber]
  exact toCell_float hfinite

theorem display_negativeZero : (CellValue.number (-0.0)).display = "-0" := by
  decide

theorem display_zero : (CellValue.number 0.0).display = "0" := by
  decide

/-! ## Ranges without numbers -/

section

variable {g : Grid} {a b : Coord}

theorem exists_rows_without_numbers {ctx : Context} {evaluate : Context → String → Result}
    (h : ∀ d, g.extent.Clips a b d → ∃ v, rangeValue g ctx evaluate d = .ok v ∧ v.number? = none) :
    ∃ rows, (resolveRange (m := Id) g a b ctx evaluate).run = .ok rows ∧
      rows.flatten.filterMap CellValue.number? = [] := by
  obtain ⟨rows, hrows, hnone, -⟩ := resolveRange_ok h
  refine ⟨rows, hrows, List.filterMap_eq_nil_iff.mpr fun v hv => ?_⟩
  obtain ⟨row, hrow, hv⟩ := List.mem_flatten.mp hv
  exact hnone row hrow v hv

/-- An aggregate of a range whose places answer no numbers is the aggregate of nothing. -/
theorem evaluateIn_aggregate_nil {o : Options} (hops : o.maxOperations = Options.default.maxOperations) {ctx : Context}
    (hdepth : ctx.depth ≤ o.maxDepth) (ha : a.Addressable) (hb : b.Addressable) (f : Aggregate)
    (h : ∀ d, g.extent.Clips a b d → ∃ v, rangeValue g ctx (evaluateIn g o) d = .ok v ∧ v.number? = none) :
    evaluateIn g o ctx (aggregateOf f (a.name ++ ":" ++ b.name)) = aggregateResult f [] := by
  obtain ⟨rows, hrows, hnone⟩ := exists_rows_without_numbers h
  rw [evaluateIn_aggregateOf hops hdepth ha hb f, hrows, Except.bind, hnone]

/-- Whether the places between two corners hold neither formulas nor texts that stand for numbers. -/
def Grid.Numberless (g : Grid) (a b : Coord) : Prop :=
  ∀ d, g.extent.Clips a b d → formula? (g.get d) = none ∧ ∀ x, CellValue.ofRaw (g.get d) ≠ .number x

namespace Grid.Numberless

theorem beyond (h : g.extent.maxX < min a.x b.x ∨ g.extent.maxY < min a.y b.y) : g.Numberless a b := by
  rintro d ⟨hleft, -, htop, -, hinside⟩
  rw [Extent.contains_iff] at hinside
  omega

variable (hnone : g.Numberless a b)
include hnone

theorem exists_rangeValue (ctx : Context) (evaluate : Context → String → Result) {d : Coord}
    (hd : g.extent.Clips a b d) : ∃ v, rangeValue g ctx evaluate d = .ok v ∧ v.number? = none := by
  obtain ⟨hliteral, hnumber⟩ := hnone d hd
  refine ⟨.text (g.get d), rangeValue_literal hliteral, ?_⟩
  rw [CellValue.number?]
  cases hraw : CellValue.ofRaw (g.get d) with
  | number x => exact absurd hraw (hnumber x)
  | text s => rfl

theorem evaluate_aggregate {o : Options} (hops : o.maxOperations = Options.default.maxOperations) (p : Coord)
    (ha : a.Addressable) (hb : b.Addressable) (f : Aggregate) :
    evaluate g o p (aggregateOf f (a.name ++ ":" ++ b.name)) = aggregateResult f [] :=
  evaluateIn_aggregate_nil hops (Nat.zero_le _) ha hb f fun _ hd => hnone.exists_rangeValue _ _ hd

end Grid.Numberless

/-- Where a range has neither formulas nor numerals, the least, the greatest and the number of its numbers show as `0`
and their average fails, but their sum is a negative zero and shows its sign. -/
theorem evaluate_numberless {o : Options} (hops : o.maxOperations = Options.default.maxOperations) (p : Coord)
    (ha : a.Addressable) (hb : b.Addressable) (hnone : g.Numberless a b) :
    (∃ v, evaluate g o p (aggregateOf .sum (a.name ++ ":" ++ b.name)) = .ok v ∧ v.display = "-0") ∧
      (∀ f ∈ [Aggregate.min, .max, .count],
        ∃ v, evaluate g o p (aggregateOf f (a.name ++ ":" ++ b.name)) = .ok v ∧ v.display = "0") ∧
      evaluate g o p (aggregateOf .average (a.name ++ ":" ++ b.name)) = .error .divZero := by
  have hall := hnone.evaluate_aggregate hops p ha hb
  refine ⟨⟨_, (hall .sum).trans aggregateResult_sum_nil, display_negativeZero⟩, fun f hf => ?_,
    (hall .average).trans aggregateResult_average_nil⟩
  have hzero : aggregateResult f [] = .ok (.number 0.0) := by
    refine aggregateResult_nil ?_ ?_ <;> rintro rfl <;> exact absurd hf (by decide)
  exact ⟨_, (hall f).trans hzero, display_zero⟩

end

/-- A sheet of texts, of which `B2` would be a numeral were it not too large. -/
def Grid.ofTexts : Grid :=
  ((Grid.new ⟨3, 3⟩).set ⟨1, 1⟩ "x").set ⟨2, 2⟩ "1e999"

theorem Grid.numberless_ofTexts : Grid.ofTexts.Numberless ⟨2, 2⟩ ⟨1, 1⟩ := by
  have hplaces : ∀ d ∈ (Rectangle.around ⟨2, 2⟩ ⟨1, 1⟩).cells.filter Grid.ofTexts.extent.contains,
      formula? (Grid.ofTexts.get d) = none ∧ (CellValue.text (Grid.ofTexts.get d)).number? = none := by
    decide
  intro d hd
  obtain ⟨hliteral, hnumber⟩ := hplaces d ((Rectangle.mem_filter_cells_around _ _ _ _).mpr hd)
  refine ⟨hliteral, fun x hx => ?_⟩
  rw [CellValue.number?, hx] at hnumber
  cases hnumber

theorem evaluate_numberless_ofTexts :
    ((∃ v, evaluate Grid.ofTexts Options.default ⟨3, 3⟩ "SUM(B2:A1)" = .ok v ∧ v.display = "-0") ∧
      (∀ f ∈ [Aggregate.min, .max, .count],
        ∃ v, evaluate Grid.ofTexts Options.default ⟨3, 3⟩ (aggregateOf f "B2:A1") = .ok v ∧ v.display = "0") ∧
      evaluate Grid.ofTexts Options.default ⟨3, 3⟩ "AVERAGE(B2:A1)" = .error .divZero) ∧
      ∃ v, evaluate Grid.ofTexts Options.default ⟨1, 1⟩ "SUM(D1:E9)" = .ok v ∧ v.display = "-0" := by
  have hinside : (⟨2, 2⟩ : Coord).name ++ ":" ++ (⟨1, 1⟩ : Coord).name = "B2:A1" := by decide +kernel
  have hbeyond : (⟨4, 1⟩ : Coord).name ++ ":" ++ (⟨5, 9⟩ : Coord).name = "D1:E9" := by decide +kernel
  have htexts := evaluate_numberless (g := Grid.ofTexts) (o := Options.default) rfl ⟨3, 3⟩
    (show (⟨2, 2⟩ : Coord).Addressable by constructor <;> decide)
    (show (⟨1, 1⟩ : Coord).Addressable by constructor <;> decide) Grid.numberless_ofTexts
  have hnothing := evaluate_numberless (g := Grid.ofTexts) (o := Options.default) rfl ⟨1, 1⟩
    (show (⟨4, 1⟩ : Coord).Addressable by constructor <;> decide)
    (show (⟨5, 9⟩ : Coord).Addressable by constructor <;> decide) (.beyond (.inl (by decide)))
  rw [hinside] at htexts
  rw [hbeyond] at hnothing
  exact ⟨htexts, hnothing.1⟩

/-- Not all aggregates of a range without numbers show as `0`: in an empty sheet the sum of four cells does not. -/
theorem not_always_zero :
    ¬∀ (g : Grid) (p a b : Coord), a.Addressable → b.Addressable → g.Numberless a b →
      (∀ f ∈ [Aggregate.sum, .min, .max, .count], ∃ v,
        evaluate g Options.default p (aggregateOf f (a.name ++ ":" ++ b.name)) = .ok v ∧ v.display = "0") ∧
        evaluate g Options.default p (aggregateOf .average (a.name ++ ":" ++ b.name)) = .error .divZero := by
  intro hzero
  have ha : (⟨1, 1⟩ : Coord).Addressable := by constructor <;> decide
  have hb : (⟨2, 2⟩ : Coord).Addressable := by constructor <;> decide
  have hnone : (Grid.new ⟨3, 3⟩).Numberless ⟨1, 1⟩ ⟨2, 2⟩ := by
    intro d _
    rw [Grid.get_new]
    refine ⟨rfl, fun x hx => ?_⟩
    cases hx
  obtain ⟨v, hv, hdisplay⟩ := (hzero _ ⟨3, 3⟩ _ _ ha hb hnone).1 .sum List.mem_cons_self
  rw [hnone.evaluate_aggregate rfl ⟨3, 3⟩ ha hb .sum, aggregateResult_sum_nil] at hv
  obtain rfl := Except.ok.inj hv
  exact absurd (display_negativeZero.symm.trans hdisplay) (by decide)

end Worksheet
