import Worksheet.Proofs.Evaluation.Chains
import Worksheet.Proofs.Script.Unwinding

/-!
# What an evaluation depends on

* `Grid.IsPlain`, `answer_congr`, `evaluateStep_congr` : ranges without formulas answer the same at any depth;
* `evaluateStep_of_raises` : a formula whose script a lookup has stopped answers the code of the lookup;
* `isFinite_of_evaluateStep` : a number that a formula answers is finite;
* `followChain_of_float`, `not_goes_of_number`, `eq_of_reached` : an evaluation ends with a number.
-/

namespace Worksheet

open Script Formula

/-! ## Lookups -/

/-- Whether no formula lies in the range that a lookup asks for. -/
def Grid.IsPlain (g : Grid) : Lookup → Prop
  | .cell _ _ => True
  | .range column₁ row₁ column₂ row₂ =>
    ∀ d, g.extent.Clips (CellRef.toCoord ⟨column₁, row₁⟩) (CellRef.toCoord ⟨column₂, row₂⟩) d →
      formula? (g.get d) = none
  | .negative => True

section

variable {g : Grid} {ctx ctx' : Context} {nested nested' : Context → String → Result}

theorem answer_congr (hctx : ctx.current = ctx'.current) {q : Lookup} (hq : g.IsPlain q) :
    answer g nested' ctx' q = answer g nested ctx q := by
  cases q with
  | cell column row => rw [answer, answer, resolveCell, resolveCell, hctx]
  | range column₁ row₁ column₂ row₂ =>
    unfold answer
    dsimp only
    rw [resolveRange_congr hq]
  | negative => rfl

theorem evaluateStep_congr [Engine] {limit : Nat} {formula : String} (hctx : ctx.current = ctx'.current)
    (h : ∀ q ∈ (dialogue limit (toScript formula)).asked (answer g nested ctx), g.IsPlain q) :
    evaluateStep g limit nested' ctx' formula = evaluateStep g limit nested ctx formula := by
  rw [evaluateStep_eq_bind, evaluateStep_eq_bind, Dialogue.run_congr fun q hq => answer_congr hctx (h q hq)]

/-- The code is found inside whatever calls and modules the fault of the lookup has left. -/
theorem evaluateStep_of_raises [E : Engine] {limit : Nat} {formula : String} {c : ErrorCode}
    (h : Raises c ((E.run limit (toScript formula)).run (answer g nested ctx))) :
    evaluateStep g limit nested ctx formula = .error c := by
  rw [evaluateStep, Outcome.ofRun, Outcome.toResult_ofResult, h.mapError_code]
  rfl

end

/-! ## Numbers -/

theorem toCell_float_cases (x : Float) :
    (Value.float x).toCell = .error .num ∨ (Value.float x).toCell = .error .divZero ∨
      (Value.float x).toCell = .ok (.number x) := by
  unfold Value.toCell
  dsimp only
  by_cases hnan : x.isNaN = true
  · exact .inl (if_pos hnan)
  · rw [if_neg hnan]
    by_cases hinf : x.isInf = true
    · exact .inr (.inl (if_pos hinf))
    · exact .inr (.inr (if_neg hinf))

theorem isFinite_of_toCell {v : Value} {x : Float} (h : v.toCell = .ok (.number x)) : x.isFinite = true := by
  cases v with
  | float y =>
    unfold Value.toCell at h
    dsimp only at h
    by_cases hnan : y.isNaN = true
    · rw [if_pos hnan] at h
      exact absurd h (by simp)
    · by_cases hinf : y.isInf = true
      · rw [if_neg hnan, if_pos hinf] at h
        exact absurd h (by simp)
      · rw [if_neg hnan, if_neg hinf] at h
        obtain rfl : y = x := by simpa using h
        exact isFinite_of_not hnan hinf
  | int n =>
    obtain rfl : Decimal.ofInt n.toInt = x := by simpa [Value.toCell] using h
    have hlow := n.le_toInt
    have hhigh := n.toInt_lt
    exact Decimal.isFinite_ofInt (k := 64) (by omega) (by decide)
  | _ => exact absurd h (by simp [Value.toCell, CellValue.empty])

theorem isFinite_of_evaluateStep [Engine] {g : Grid} {limit : Nat} {nested : Context → String → Result} {ctx : Context}
    {formula : String} {x : Float} (h : evaluateStep g limit nested ctx formula = .ok (.number x)) :
    x.isFinite = true := by
  rw [evaluateStep_eq_bind] at h
  cases hv : (dialogue limit (toScript formula)).run (answer g nested ctx) with
  | error c =>
    rw [hv] at h
    exact absurd h (by simp [bind, Except.bind])
  | ok v =>
    rw [hv] at h
    exact isFinite_of_toCell h

theorem followChain_of_float {step : String → Result} {formula : String} {y : Except ErrorCode Float}
    (h : step formula = y.bind fun x => (Value.float x).toCell) (more : Nat) :
    followChain step more formula = y.bind fun x => (Value.float x).toCell := by
  rw [followChain, h]
  cases y with
  | error c => rfl
  | ok x =>
    simp only [Except.bind]
    rcases toCell_float_cases x with hx | hx | hx
    · simp only [hx]
    · simp only [hx]
    · simp only [hx, CellValue.formula?_text]

theorem not_goes_of_number {step : String → Result} {formula next : String} {x : Float}
    (hstep : step formula = .ok (.number x)) : ¬Goes step formula next := by
  rintro ⟨v, hv, hnext⟩
  obtain rfl := Except.ok.inj (hstep.symm.trans hv)
  rw [CellValue.formula?_text] at hnext
  cases hnext

theorem eq_of_reached {step : String → Result} {formula next : String} {x : Float}
    (hstep : step formula = .ok (.number x)) (hnext : Relation.ReflTransGen (Goes step) formula next) :
    next = formula := by
  obtain rfl | ⟨last, hgoes, -⟩ := hnext.cases_head
  · rfl
  · exact absurd hgoes (not_goes_of_number hstep)

end Worksheet
