import Worksheet.Proofs.Decimal.Rounding
import Worksheet.Proofs.Evaluation.Outcomes

/-!
# Displayed numbers stored as literals

What a number shows as is a literal for just that number, to the last bit and with its sign. So a cell keeps its
number when the text that it shows is stored in place of its formula.

* `isNearest_of_read?` : a text is read as the float nearest to what it says;
* `isPlain_of_mem_display` : no number is shown with an exponent;
* `Grid.HoldsNumber`, `holdsNumber_set` : cells that stand for a number wherever they are looked up;
* `display_exact` : the numbers that are shown, and what is read from them.
-/

namespace Worksheet

open Decimal

/-! ## Texts of numbers -/

theorem isNearest_of_read? {cs : List Char} {x : Float} (h : read? cs = some x) :
    ∃ n, Numeral.ofChars? cs = some n ∧ isNegative x = n.negative ∧ IsNearest n.value (magnitude x) := by
  obtain ⟨n, hn, rfl⟩ := Option.map_eq_some_iff.mp h
  have hnearest := n.isNearest_toWord
  have hword := hnearest.le_infinityWord
  refine ⟨n, hn, isNegative_ofParts hword _, ?_⟩
  rwa [Numeral.toFloat, magnitude_ofParts hword]

theorem isPlain_of_mem_display {x : Float} (hx : x.isFinite = true) :
    ∀ c ∈ (CellValue.number x).display.toList, IsPlain c := by
  obtain ⟨cs, s, htext, hcs, -⟩ := exists_laysOut_displayed hx
  intro c hc
  rw [CellValue.display, htext] at hc
  rcases List.mem_append.mp hc with hc | hc
  · exact isPlain_of_mem_signChars c hc
  · exact hcs.plain c hc

theorem toBits_ofBits_of_isFinite {bits : UInt64} (h : (Float.ofBits bits).isFinite = true) :
    (Float.ofBits bits).toBits = bits :=
  toBits_ofBits (Nat.le_of_lt ((isFinite_ofBits_iff bits).mp h))

theorem eq_of_display_eq {x y : Float} (hx : x.isFinite = true) (hy : y.isFinite = true)
    (h : (CellValue.number x).display = (CellValue.number y).display) : x = y := by
  have hsame := congrArg CellValue.ofRaw h
  rw [CellValue.ofRaw_display_number hx, CellValue.ofRaw_display_number hy] at hsame
  exact CellValue.number.inj hsame

/-! ## Cells that hold a number -/

/-- A cell that stores a number: it is no formula, shows the number, and is the number for the formulas that ask
for the cell by its name or in a range. -/
structure Grid.HoldsNumber (g : Grid) (c : Coord) (x : Float) : Prop where
  literal : formula? (g.get c) = none
  value : CellValue.ofRaw (g.get c) = .number x
  shown : ∀ o, computeDisplay g o c (g.get c) = (CellValue.number x).display
  named : ∀ ctx, g.extent.contains c = true → c ≠ ctx.current →
    (resolveCell g c ctx).map CellValue.ofRaw = .ok (.number x)
  ranged : ∀ ctx evaluate, (rangeValue g ctx evaluate c).map CellValue.inRange = .ok (.float x)

theorem holdsNumber_set {x : Float} (hx : x.isFinite = true) (g : Grid) (c : Coord) :
    (g.set c (CellValue.number x).display).HoldsNumber c x := by
  have hget : (g.set c (CellValue.number x).display).get c = (CellValue.number x).display := by
    rw [Grid.get_set, if_pos rfl]
  have hliteral : formula? ((g.set c (CellValue.number x).display).get c) = none := by
    rw [hget]
    exact CellValue.formula?_text x
  have hvalue : CellValue.ofRaw ((g.set c (CellValue.number x).display).get c) = .number x := by
    rw [hget]
    exact CellValue.ofRaw_display_number hx
  refine ⟨hliteral, hvalue, fun o => ?_, fun ctx hinside hother => ?_, fun ctx evaluate => ?_⟩
  · rw [computeDisplay, hliteral]
    exact hget
  · rw [resolveCell, hinside, Bool.not_true, if_neg Bool.false_ne_true, if_neg hother]
    exact congrArg Except.ok hvalue
  · rw [rangeValue_literal hliteral]
    show Except.ok (CellValue.ofRaw _).toScript = _
    rw [hvalue]
    rfl

theorem computeDisplay_of_evaluateCell {g : Grid} {o : Options} {c : Coord} {v : CellValue}
    (h : evaluateCell g o c = some (.ok v)) : computeDisplay g o c (g.get c) = v.display := by
  obtain ⟨formula, hformula, hvalue⟩ := Option.map_eq_some_iff.mp h
  rw [computeDisplay, hformula]
  dsimp only
  rw [hvalue]
  rfl

theorem isFinished_of_evaluateCell {g : Grid} {o : Options} {c : Coord} {v : CellValue}
    (h : evaluateCell g o c = some (.ok v)) : v.IsFinished := by
  obtain ⟨formula, -, hvalue⟩ := Option.map_eq_some_iff.mp h
  exact isFinished_of_evaluateIn hvalue

/-- Reading rounds correctly. What a finite number shows as has no exponent and is read as the number with the same
bits, so no two finite numbers show the same, and a cell in which that text is stored holds the number; the number that
a formula answers is one of them. -/
theorem display_exact :
    (∀ cs x, read? cs = some x → ∃ n, Numeral.ofChars? cs = some n ∧ isNegative x = n.negative ∧
      IsNearest n.value (magnitude x)) ∧
    (∀ bits : UInt64, (Float.ofBits bits).isFinite = true →
      (∃ x, CellValue.ofRaw (CellValue.number (Float.ofBits bits)).display = .number x ∧ x.toBits = bits) ∧
      (∀ c ∈ (CellValue.number (Float.ofBits bits)).display.toList, IsPlain c) ∧
      (∀ bits' : UInt64, (Float.ofBits bits').isFinite = true →
        (CellValue.number (Float.ofBits bits')).display = (CellValue.number (Float.ofBits bits)).display →
          bits' = bits) ∧
      ∀ (g : Grid) c,
        (g.set c (CellValue.number (Float.ofBits bits)).display).HoldsNumber c (Float.ofBits bits)) ∧
    ∀ (g : Grid) o c x, evaluateCell g o c = some (.ok (.number x)) →
      (g.set c (computeDisplay g o c (g.get c))).HoldsNumber c x := by
  refine ⟨fun cs x => isNearest_of_read?, fun bits hbits => ⟨?_, ?_, fun bits' hbits' hsame => ?_, ?_⟩, ?_⟩
  · exact ⟨_, CellValue.ofRaw_display_number hbits, toBits_ofBits_of_isFinite hbits⟩
  · exact isPlain_of_mem_display hbits
  · have hfloat := eq_of_display_eq hbits' hbits hsame
    rw [← toBits_ofBits_of_isFinite hbits', hfloat, toBits_ofBits_of_isFinite hbits]
  · exact holdsNumber_set hbits
  · intro g o c x hx
    rw [computeDisplay_of_evaluateCell hx]
    exact holdsNumber_set (isFinished_of_evaluateCell hx) g c

def leastNegative : UInt64 := 0x8000000000000001

def productSheet : Grid :=
  (Grid.new ⟨1, 1⟩).set ⟨1, 1⟩ (ofFormula quotedProduct)

theorem display_exact_leastNegative :
    (Float.ofBits leastNegative).isFinite = true ∧
      (CellValue.number (Float.ofBits leastNegative)).display =
        "-0." ++ String.ofList (List.replicate 323 '0') ++ "5" ∧
      (∃ x, CellValue.ofRaw (CellValue.number (Float.ofBits leastNegative)).display = .number x ∧
        x.toBits = leastNegative) ∧
      (∃ n, Numeral.ofChars? (CellValue.number (Float.ofBits leastNegative)).display.toList = some n ∧
        n.negative = true ∧ IsNearest n.value 1) ∧
      evaluateCell productSheet Options.default ⟨1, 1⟩ = some (.ok (.number (ofInt 6))) ∧
      (productSheet.set ⟨1, 1⟩ (computeDisplay productSheet Options.default ⟨1, 1⟩
        (productSheet.get ⟨1, 1⟩))).HoldsNumber ⟨1, 1⟩ (ofInt 6) := by
  obtain ⟨hread, hbits, hcell⟩ := display_exact
  have hfinite : (Float.ofBits leastNegative).isFinite = true := by decide
  have hdisplay : (CellValue.number (Float.ofBits leastNegative)).display =
      "-0." ++ String.ofList (List.replicate 323 '0') ++ "5" := by decide +kernel
  have hsix : evaluateCell productSheet Options.default ⟨1, 1⟩ = some (.ok (.number (ofInt 6))) := by
    rw [evaluateCell, productSheet, Grid.get_set, if_pos rfl, formula?_ofFormula, Option.map_some, evaluate,
      evaluateIn_quotedProduct]
  have hnegative : isNegative (Float.ofBits leastNegative) = true := by decide
  have hmagnitude : magnitude (Float.ofBits leastNegative) = 1 := by decide
  refine ⟨hfinite, hdisplay, (hbits leastNegative hfinite).1, ?_, hsix, hcell _ _ _ _ hsix⟩
  have hreads : read? (CellValue.number (Float.ofBits leastNegative)).display.toList =
      some (Float.ofBits leastNegative) := by
    obtain ⟨cs, s, htext, hcs, hword⟩ := exists_laysOut_displayed hfinite
    rw [CellValue.display, htext, hcs.read?_signed, hword, ofParts_magnitude]
  obtain ⟨n, hn, hsign, hnearest⟩ := hread _ _ hreads
  rw [hnegative] at hsign
  rw [hmagnitude] at hnearest
  exact ⟨n, hn, hsign.symm, hnearest⟩

end Worksheet
