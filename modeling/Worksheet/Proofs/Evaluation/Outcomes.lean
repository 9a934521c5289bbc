import Worksheet.Proofs.Evaluation.FormulaCells

/-!
# What an evaluation can answer

A script may answer a value of any type: one that has no place in a cell fails, and a text that is a formula is
evaluated in its turn. So an evaluation that does not fail ends with a finite number or with a text that is no
formula, and what a formula cell shows is never a formula.

* `CellValue.IsFinished` : finite numbers, and texts that are no formulas;
* `isFinished_of_evaluateIn` : what an evaluation answers;
* `head?_computeDisplay` : what a formula cell shows;
* `evaluateIn_finished` : both, for all grids and options.
-/

namespace Worksheet

open Script Formula

/-- Finite numbers, and texts that do not start as a formula does. -/
def CellValue.IsFinished : CellValue → Prop
  | .number x => x.isFinite = true
  | .text s => s.toList.head? ≠ some '='

/-- A finished value does not show as a formula. -/
theorem CellValue.IsFinished.head?_display {v : CellValue} (h : v.IsFinished) : v.display.toList.head? ≠ some '=' := by
  cases v with
  | number x => exact formula?_eq_none_iff.mp (CellValue.formula?_text x)
  | text s => exact h

/-! ## Evaluations -/

section

variable [Engine] {g : Grid} {o : Options} {ctx : Context} {formula : String}

/-- The value at the end of a chain is one that shows no formula, and a number in it comes from a script. -/
theorem isFinished_of_evaluateIn {v : CellValue} (h : evaluateIn g o ctx formula = .ok v) : v.IsFinished := by
  by_cases hdepth : o.maxDepth < ctx.depth
  · rw [evaluateIn_of_lt g hdepth] at h
    cases h
  · rw [evaluateIn_eq g (Nat.not_lt.mp hdepth)] at h
    obtain ⟨k, last, hend, hlast⟩ := exists_endsAt_of_followChain h
    cases v with
    | number x => exact isFinite_of_evaluateStep hlast
    | text s =>
      have hstops := hend.stops
      rw [hlast, continuation?, CellValue.display] at hstops
      exact formula?_eq_none_iff.mp hstops

theorem head?_computeDisplay (hmarker : o.invalidDisplay.toList.head? ≠ some '=') (c : Coord) :
    (computeDisplay g o c (ofFormula formula)).toList.head? ≠ some '=' := by
  rw [computeDisplay, formula?_ofFormula]
  dsimp only
  cases hvalue : evaluate g o c formula with
  | error code => exact hmarker
  | ok v => exact (isFinished_of_evaluateIn hvalue).head?_display

end

/-- With any engine, an evaluation answers an error, with an empty text for a value, or a finished value and no error.
Unless the marker of failed formulas looks like a formula, no formula cell shows what looks like one. -/
theorem evaluateIn_finished [Engine] (g : Grid) (o : Options) :
    (∀ ctx formula,
      (∃ c, Outcome.ofResult (evaluateIn g o ctx formula) = ⟨.text "", some c⟩) ∨
        ∃ v : CellValue, Outcome.ofResult (evaluateIn g o ctx formula) = ⟨v, none⟩ ∧ v.IsFinished) ∧
    (o.invalidDisplay.toList.head? ≠ some '=' →
      ∀ c formula, (computeDisplay g o c (ofFormula formula)).toList.head? ≠ some '=') := by
  refine ⟨fun ctx formula => ?_, fun hmarker c formula => head?_computeDisplay hmarker c⟩
  cases hvalue : evaluateIn g o ctx formula with
  | error c => exact .inl ⟨c, rfl⟩
  | ok v => exact .inr ⟨v, rfl, isFinished_of_evaluateIn hvalue⟩

def quotedProduct : String :=
  "\"=2*3\""

theorem quotedProduct_done :
    dialogue Options.default.maxOperations (toScript quotedProduct) = .done (.ok (.text "=2*3")) := by
  rfl

theorem evaluateIn_quotedProduct (g : Grid) (c : Coord) :
    evaluateIn g Options.default (.root c) quotedProduct = .ok (.number (Decimal.ofInt 6)) := by
  have hquoted : evaluateStep g Options.default.maxOperations (evaluateIn g Options.default) (.root c) quotedProduct =
      .ok (.text (ofFormula "2*3")) := by
    rw [evaluateStep_eq_bind, quotedProduct_done]
    rfl
  have hproduct : evaluateStep g Options.default.maxOperations (evaluateIn g Options.default) (.root c) "2*3" =
      .ok (.number (Decimal.ofInt 6)) := by
    rw [evaluateStep_eq_bind, product_done]
    rfl
  have hend : EndsAt (evaluateStep g Options.default.maxOperations (evaluateIn g Options.default) (.root c))
      quotedProduct 1 "2*3" := by
    refine (endsAt_succ_iff ?_).mpr (endsAt_zero ?_)
    · rw [hquoted, continuation?, CellValue.display, formula?_ofFormula]
    · rw [hproduct, continuation?, CellValue.formula?_text]
  have hlimit : 1 ≤ Options.default.maxChain := by decide
  rw [evaluateIn_eq g (Nat.zero_le _), hend.followChain_eq, if_pos hlimit, hproduct]

/-- The text is not answered but evaluated, and the number that it stands for is shown. -/
theorem evaluateIn_finished_quotedProduct :
    Options.default.invalidDisplay.toList.head? ≠ some '=' ∧
      Outcome.ofResult (evaluateIn (Grid.new ⟨1, 1⟩) Options.default (.root ⟨1, 1⟩) quotedProduct) =
        ⟨.number (Decimal.ofInt 6), none⟩ ∧
      CellValue.IsFinished (.number (Decimal.ofInt 6)) ∧
      (computeDisplay (Grid.new ⟨1, 1⟩) Options.default ⟨1, 1⟩ (ofFormula quotedProduct)).toList.head? ≠ some '=' := by
  have hmarker : Options.default.invalidDisplay.toList.head? ≠ some '=' := by decide
  have hvalue : Outcome.ofResult (evaluateIn (Grid.new ⟨1, 1⟩) Options.default (.root ⟨1, 1⟩) quotedProduct) =
      ⟨.number (Decimal.ofInt 6), none⟩ := by
    rw [evaluateIn_quotedProduct]
    rfl
  obtain ⟨houtcome, hdisplay⟩ := evaluateIn_finished (Grid.new ⟨1, 1⟩) Options.default
  refine ⟨hmarker, hvalue, ?_, hdisplay hmarker ⟨1, 1⟩ quotedProduct⟩
  obtain ⟨c, hc⟩ | ⟨v, hv, hfinished⟩ := houtcome (.root ⟨1, 1⟩) quotedProduct
  · exact absurd (congrArg Outcome.error (hvalue.symm.trans hc)) (Option.some_ne_none c).symm
  · obtain rfl : CellValue.number (Decimal.ofInt 6) = v := congrArg Outcome.value (hvalue.symm.trans hv)
    exact hfinished

end Worksheet
