import Worksheet.CellValue
import Worksheet.Proofs.Text.Scanning

/-!
# Literals, formulas and what they show

* `isNaN_of_isFinite`, `isInf_of_isFinite`, `isFinite_of_not` : a finite float is neither of the two;
* `formula?_eq_none_iff` : what is no formula;
* `formula?_text` : a number never shows as a formula;
* `ofRaw_ofFormula` : a formula is not read as a number;
* `formula?_display_ofRaw` : the value of a literal does not show as a formula.
-/

namespace Worksheet

/-! ## Finite floats -/

theorem isNaN_of_isFinite {x : Float} (h : x.isFinite = true) : x.isNaN = false := by
  unfold Float.isFinite Float.Model.isFinite at h
  unfold Float.isNaN Float.Model.isNaN
  cases hx : x.toModel.unpack <;> rw [hx] at h <;> first | rfl | exact absurd h Bool.false_ne_true

theorem isInf_of_isFinite {x : Float} (h : x.isFinite = true) : x.isInf = false := by
  unfold Float.isFinite Float.Model.isFinite at h
  unfold Float.isInf Float.Model.isInf
  cases hx : x.toModel.unpack <;> rw [hx] at h <;> first | rfl | exact absurd h Bool.false_ne_true

theorem isFinite_of_not {x : Float} (hnan : ¬x.isNaN = true) (hinf : ¬x.isInf = true) : x.isFinite = true := by
  unfold Float.isNaN Float.Model.isNaN at hnan
  unfold Float.isInf Float.Model.isInf at hinf
  unfold Float.isFinite Float.Model.isFinite
  cases hx : x.toModel.unpack <;> rw [hx] at hnan hinf <;> first | rfl | exact absurd rfl hnan | exact absurd rfl hinf

/-! ## Formulas -/

theorem formula?_eq_none_iff {raw : String} : formula? raw = none ↔ raw.toList.head? ≠ some '=' := by
  unfold formula?
  split
  · rename_i cs heq
    simp [heq]
  · rename_i hne
    refine ⟨fun _ hhead => ?_, fun _ => rfl⟩
    obtain ⟨cs, hcs⟩ := List.head?_eq_some_iff.mp hhead
    exact hne cs hcs

theorem eq_ofFormula_of_formula? {raw formula : String} (h : formula? raw = some formula) :
    raw = ofFormula formula := by
  unfold formula? at h
  split at h
  · rename_i cs heq
    obtain rfl : String.ofList cs = formula := by simpa using h
    rw [ofFormula, ← String.toList_inj, String.toList_append, String.toList_ofList, heq]
    simp
  · exact absurd h (by simp)

end Worksheet

/-! ## Numbers as texts -/

namespace Worksheet.Decimal

/-- Whether a text starts with a character of a number: a digit, a minus or the mark of a failure. -/
def StartsLikeNumber (cs : List Char) : Prop :=
  ∃ c ∈ cs.head?, c.isDigit = true ∨ c = '-' ∨ c = '#'

theorem startsLikeNumber_digits (n : Nat) (rest : List Char) : StartsLikeNumber (Nat.toDigits 10 n ++ rest) := by
  obtain ⟨d, ds, hds⟩ := List.exists_cons_of_ne_nil (Nat.toDigits_ne_nil (n := n) (b := 10))
  refine ⟨d, by simp [hds], .inl ?_⟩
  exact isDigit_of_mem_toDigits (n := n) (by simp [hds])

theorem startsLikeNumber_take {n k : Nat} (hk : 0 < k) (rest : List Char) :
    StartsLikeNumber ((Nat.toDigits 10 n).take k ++ rest) := by
  obtain ⟨d, ds, hds⟩ := List.exists_cons_of_ne_nil (Nat.toDigits_ne_nil (n := n) (b := 10))
  obtain ⟨k, rfl⟩ := Nat.exists_eq_add_of_lt hk
  refine ⟨d, by simp [hds], .inl ?_⟩
  exact isDigit_of_mem_toDigits (n := n) (by simp [hds])

theorem startsLikeNumber_positional (mark : String) (s : Scaled) :
    StartsLikeNumber (Layout.positional mark s).toList := by
  unfold Layout.positional
  dsimp only
  split
  · rw [String.toList_append, String.toList_ofList, List.append_assoc]
    exact startsLikeNumber_digits _ _
  · split
    · rename_i hplaces
      rw [String.toList_ofList]
      exact startsLikeNumber_take (by omega) _
    · rw [String.toList_ofList]
      exact ⟨'0', rfl, .inl (by decide)⟩

theorem startsLikeNumber_exponential (s : Scaled) : StartsLikeNumber (Layout.exponential s).toList := by
  unfold Layout.exponential
  dsimp only
  rw [String.toList_append, String.toList_append, String.toList_ofList, List.append_assoc, List.append_assoc]
  exact startsLikeNumber_take (by decide) _

theorem startsLikeNumber_positive (layout : Layout) (x : Float) :
    StartsLikeNumber (layout.positive x).toList := by
  unfold Layout.positive
  dsimp only
  split
  · exact startsLikeNumber_exponential _
  · exact startsLikeNumber_positional _ _

theorem StartsLikeNumber.after_sign {s : String} (h : StartsLikeNumber s.toList) (negative : Bool) :
    StartsLikeNumber ((if negative then "-" else "") ++ s).toList := by
  cases negative with
  | false => simpa using h
  | true => exact ⟨'-', by simp, .inr (.inl rfl)⟩

theorem startsLikeNumber_displayed (x : Float) : StartsLikeNumber (displayed.text x).toList := by
  unfold Layout.text
  by_cases hnan : x.isNaN = true
  · rw [if_pos hnan]
    exact ⟨'#', rfl, .inr (.inr rfl)⟩
  · rw [if_neg hnan]
    by_cases hinf : x.isInf = true
    · rw [if_pos hinf]
      cases isNegative x <;> exact ⟨'#', rfl, .inr (.inr rfl)⟩
    · rw [if_neg hinf]
      dsimp only
      by_cases hzero : magnitude x = 0
      · rw [if_pos hzero, String.append_assoc]
        exact StartsLikeNumber.after_sign ⟨'0', rfl, .inl (by decide)⟩ (isNegative x)
      · rw [if_neg hzero]
        exact (startsLikeNumber_positive _ _).after_sign (isNegative x)

theorem read?_equals (cs : List Char) : read? ('=' :: cs) = none := by
  have hdigit : '='.isDigit = false := by decide
  simp [read?, Numeral.ofChars?, Numeral.takeSign, Numeral.unsigned?, takeDigits, hdigit, Numeral.takeFraction]

end Worksheet.Decimal

namespace Worksheet.CellValue

open Decimal

theorem formula?_text (x : Float) : formula? (number x).display = none := by
  rw [formula?_eq_none_iff]
  obtain ⟨c, hc, hlike⟩ := startsLikeNumber_displayed x
  intro hequals
  obtain rfl : c = '=' := Option.some.inj (Eq.trans hc.symm hequals)
  revert hlike
  decide

theorem trimChars_equals (cs : List Char) : ∃ rest, Text.trimChars ('=' :: cs) = '=' :: rest := by
  have hspace : Text.isWhiteSpace '=' = false := by decide
  rw [Text.trimChars, List.dropWhile_cons_of_neg (by simp [hspace]), List.reverse_cons, List.dropWhile_append]
  split
  · exact ⟨[], by simp [hspace]⟩
  · exact ⟨_, by rw [List.reverse_append]; rfl⟩

theorem ofRaw_ofFormula (formula : String) : ofRaw (ofFormula formula) = .text (ofFormula formula) := by
  obtain ⟨rest, hrest⟩ := trimChars_equals formula.toList
  have hread : read? (Text.trimChars (ofFormula formula).toList) = none := by
    rw [show (ofFormula formula).toList = '=' :: formula.toList by simp [ofFormula], hrest, read?_equals]
  rw [ofRaw, hread]

theorem display_ofRaw_ofFormula (formula : String) : (ofRaw (ofFormula formula)).display = ofFormula formula := by
  rw [ofRaw_ofFormula, display]

theorem formula?_display_ofRaw {raw : String} (h : formula? raw = none) :
    formula? (ofRaw raw).display = none := by
  unfold ofRaw
  split
  · split
    · exact formula?_text _
    · exact h
  · exact h

end Worksheet.CellValue
