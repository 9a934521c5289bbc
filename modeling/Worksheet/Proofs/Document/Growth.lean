import Worksheet.Proofs.Document.Bounds
import Worksheet.Proofs.Evaluation.Growth

/-!
# A document that grows

Adding rows and columns changes no value that a cell has, where every formula is elementary and no growth goes past
the last word.

* `Document.options_performAll` : calls leave the options of evaluation alone;
* `Edit.Grows` : the calls that add a row or a column; `Document.grownFrom_perform` : what they do to the sheet;
* `Document.evaluate_grownFrom` : values stay in a sheet that has grown;
* `Document.evaluate_performAll_of_grows` : and so they do through any number of growths;
* `Document.evaluate_grown` : this for a document that was opened and changed;
* `Document.not_always_kept` : an extent that has gone past the last word leaves cells outside, which a growth brings
  back.
-/

namespace Worksheet

/-- Whether a call adds a row or a column. -/
def Edit.Grows (e : Edit) : Prop :=
  e = .addRow ∨ e = .addColumn

namespace Document

variable {σ : Type} [Store σ] {d : Document σ}

/-! ## Options -/

theorem options_save (d : Document σ) : d.save.2.options = d.options := by
  obtain ⟨-, h⟩ | ⟨s, s', -, ⟨-, h⟩ | ⟨f, -, h⟩⟩ := d.save_cases <;> rw [h]

theorem options_perform (d : Document σ) (e : Edit) : (d.perform e).options = d.options :=
  perform_induction (P := fun d' => d'.options = d.options) rfl e (fun _ _ _ => rfl)
    (fun d' hd' => (options_save d').trans hd') (fun _ => rfl) fun _ => rfl

theorem options_performAll (d : Document σ) (edits : List Edit) : (d.performAll edits).options = d.options := by
  induction edits generalizing d with
  | nil => rfl
  | cons e edits ih => exact (ih (d.perform e)).trans (d.options_perform e)

/-! ## One growth -/

theorem get_of_bounded {g : Grid} (h : g.Bounded) {c : Coord} (hc : g.extent.contains c = false) : g.get c = "" := by
  rw [Grid.get_eq_text?]
  cases htext : g.rows.text? c with
  | none => rfl
  | some raw => cases hc.symm.trans (h c raw htext).2

theorem grownFrom_perform (h : d.grid.Bounded) {e : Edit} (he : e.Grows)
    (hcolumns : d.grid.extent.maxX + [e].count .addColumn < wordBound)
    (hrows : d.grid.extent.maxY + [e].count .addRow < wordBound) : (d.perform e).grid.GrownFrom d.grid where
  get c := by
    obtain rfl | rfl := he
    · exact d.grid.get_growRows c
    · exact d.grid.get_growColumns c
  contains c hc := by
    rw [extent_perform d e hcolumns hrows, Extent.contains_iff]
    rw [Extent.contains_iff] at hc
    exact ⟨Nat.le_add_right_of_le hc.1, Nat.le_add_right_of_le hc.2⟩
  beyond c hc := get_of_bounded h hc

omit [Store σ] in
theorem evaluate_grownFrom {d' : Document σ} (hgrown : d'.grid.GrownFrom d.grid) (hoptions : d'.options = d.options)
    (helementary : d.grid.IsElementary) (hlimit : Script.Suffices d.options.maxOperations) {c : Coord} {v : CellValue}
    (hv : d.evaluate c = .ok v) : d'.evaluate c = .ok v := by
  unfold Document.evaluate evaluateCell Document.raw at hv ⊢
  rw [hgrown.get c, hoptions]
  cases hformula : formula? (d.grid.get c) with
  | none =>
    rw [hformula] at hv
    exact hv
  | some formula =>
    rw [hformula] at hv
    have hvalue : evaluateIn d.grid d.options (.root c) formula = .ok v := hv
    exact hgrown.evaluateIn helementary hlimit (helementary c formula hformula) hvalue

/-! ## Any number of growths -/

theorem evaluate_performAll_of_grows {growths : List Edit} (hgrowths : ∀ e ∈ growths, e.Grows)
    (hbounded : d.grid.Bounded) (hcolumns : d.grid.extent.maxX + growths.count .addColumn < wordBound)
    (hrows : d.grid.extent.maxY + growths.count .addRow < wordBound) (helementary : d.grid.IsElementary)
    (hlimit : Script.Suffices d.options.maxOperations) {c : Coord} {v : CellValue} (hv : d.evaluate c = .ok v) :
    (d.performAll growths).evaluate c = .ok v := by
  induction growths generalizing d with
  | nil => exact hv
  | cons e growths ih =>
    rw [← List.singleton_append, List.count_append] at hcolumns hrows
    obtain ⟨he, hgrowths⟩ := List.forall_mem_cons.mp hgrowths
    have hgrown := grownFrom_perform hbounded he (by omega) (by omega)
    have hoptions := d.options_perform e
    have hextent := extent_perform d e (by omega) (by omega)
    refine ih hgrowths (bounded_perform hbounded e (by omega) (by omega)) ?_ ?_ ?_ ?_ ?_
    · rw [hextent]
      simpa only [Nat.add_assoc] using hcolumns
    · rw [hextent]
      simpa only [Nat.add_assoc] using hrows
    · intro b formula hformula
      exact helementary b formula (by rw [← hgrown.get b, hformula])
    · rw [hoptions]
      exact hlimit
    · exact evaluate_grownFrom hgrown hoptions helementary hlimit hv

/-- If every formula of a document that was opened and changed is the name of a cell or an aggregate of a range, then
growing changes no value that a cell has, as long as no growth has gone past the last word. -/
theorem evaluate_grown (hopened : d.Opened) (edits : List Edit) {growths : List Edit}
    (hgrowths : ∀ e ∈ growths, e.Grows)
    (hcolumns : d.grid.extent.maxX + (edits ++ growths).count .addColumn < wordBound)
    (hrows : d.grid.extent.maxY + (edits ++ growths).count .addRow < wordBound)
    (hoperations : d.options.maxOperations = Options.default.maxOperations)
    (helementary : (d.performAll edits).grid.IsElementary) {c : Coord} {v : CellValue}
    (hv : (d.performAll edits).evaluate c = .ok v) :
    ((d.performAll edits).performAll growths).evaluate c = .ok v := by
  rw [List.count_append] at hcolumns hrows
  have hextent : (d.performAll edits).grid.extent =
      ⟨d.grid.extent.maxX + edits.count .addColumn, d.grid.extent.maxY + edits.count .addRow⟩ :=
    extent_performAll d edits (by omega) (by omega)
  refine evaluate_performAll_of_grows hgrowths (bounded_performAll hopened.bounded (by omega) (by omega)) ?_ ?_
    helementary ?_ hv
  · rw [hextent]
    simpa only [Nat.add_assoc] using hcolumns
  · rw [hextent]
    simpa only [Nat.add_assoc] using hrows
  · rw [options_performAll, hoperations]
    exact suffices_default

/-- `A2` names `B2`, which names `A1`; `B1` sums up more of the first column than there is. -/
def chained : List Edit :=
  [.set ⟨1, 1⟩ "2", .set ⟨1, 2⟩ "=B2", .set ⟨2, 2⟩ "=A1", .set ⟨2, 1⟩ "=SUM(A1:A9)"]

def twoByTwo : Document MemoryStore :=
  new { Config.default with rows := 2, columns := 2 }

theorem isElementary_chained : (twoByTwo.performAll chained).grid.IsElementary := by
  have hreference : Elementary "B2" := by
    rw [show "B2" = (⟨2, 2⟩ : Coord).name by decide +kernel]
    exact .name (by constructor <;> decide)
  have hfirst : Elementary "A1" := by
    rw [← Coord.name_first]
    exact .name Coord.addressable_first
  have hsum : Elementary "SUM(A1:A9)" := by
    rw [show "SUM(A1:A9)" = aggregateOf .sum ((⟨1, 1⟩ : Coord).name ++ ":" ++ (⟨1, 9⟩ : Coord).name) by decide +kernel]
    exact .aggregate .sum Coord.addressable_first (by constructor <;> decide)
  have hempty : (Grid.new ⟨2, 2⟩).IsElementary := .new ⟨2, 2⟩
  exact (((hempty.set_literal ⟨1, 1⟩ rfl).set_formula ⟨1, 2⟩ hreference rfl).set_formula ⟨2, 2⟩ hfirst rfl).set_formula
    ⟨2, 1⟩ hsum rfl

theorem evaluate_grown_chained : twoByTwo.Opened ∧
    (∀ e ∈ [Edit.addRow, .addColumn, .addRow], e.Grows) ∧ (twoByTwo.performAll chained).grid.IsElementary ∧
      (twoByTwo.performAll chained).evaluate ⟨2, 1⟩ = .ok (.number (Decimal.ofInt 4)) ∧
      ((twoByTwo.performAll chained).performAll [.addRow, .addColumn, .addRow]).evaluate ⟨2, 1⟩ =
        .ok (.number (Decimal.ofInt 4)) := by
  have hopened : twoByTwo.Opened := ⟨_, .inl rfl⟩
  have hgrowths : ∀ e ∈ [Edit.addRow, .addColumn, .addRow], e.Grows := by simp [Edit.Grows]
  have hv : (twoByTwo.performAll chained).evaluate ⟨2, 1⟩ = .ok (.number (Decimal.ofInt 4)) :=
    eq_of_isNumber (by decide +kernel)
  exact ⟨hopened, hgrowths, isElementary_chained, hv,
    evaluate_grown hopened chained hgrowths (by decide) (by decide) rfl isElementary_chained hv⟩

/-! ## Past the last word -/

def lastRow : Config :=
  { Config.default with rows := wordBound - 1, columns := 3, maxRows := wordBound - 1 }

/-- `B1` counts numbers in the first column; one more row leaves an extent without rows. -/
def countedPast : List Edit :=
  [.set ⟨1, 1⟩ "1", .set ⟨2, 1⟩ "=COUNT(A1:A9)", .addRow]

def wrapped : Document MemoryStore :=
  (new lastRow).performAll countedPast

theorem isElementary_wrapped : wrapped.grid.IsElementary := by
  have hcount : Elementary "COUNT(A1:A9)" := by
    rw [show "COUNT(A1:A9)" = aggregateOf .count ((⟨1, 1⟩ : Coord).name ++ ":" ++ (⟨1, 9⟩ : Coord).name) by
      decide +kernel]
    exact .aggregate .count Coord.addressable_first (by constructor <;> decide)
  have hempty : (Grid.new lastRow.extent).IsElementary := .new lastRow.extent
  exact (hempty.set_literal ⟨1, 1⟩ rfl).set_formula ⟨2, 1⟩ hcount rfl

/-- A growth may change the value of a cell where one before it has gone past the last word. -/
theorem not_always_kept :
    ¬∀ (config : Config) (edits : List Edit) (c : Coord) (v : CellValue),
      config.options.maxOperations = Options.default.maxOperations →
      ((new config : Document MemoryStore).performAll edits).grid.IsElementary →
      ((new config : Document MemoryStore).performAll edits).grid.extent.maxY < wordBound - 1 →
      ((new config : Document MemoryStore).performAll edits).evaluate c = .ok v →
      ((new config : Document MemoryStore).performAll edits).addRow.evaluate c = .ok v := by
  intro hall
  have hroom : wrapped.grid.extent.maxY < wordBound - 1 := by decide
  have hbefore : wrapped.evaluate ⟨2, 1⟩ = .ok (.number (Decimal.ofInt 0)) := eq_of_isNumber (by decide +kernel)
  have hafter : wrapped.addRow.evaluate ⟨2, 1⟩ = .ok (.number (Decimal.ofInt 1)) := eq_of_isNumber (by decide +kernel)
  have hkept := hall lastRow countedPast ⟨2, 1⟩ _ rfl isElementary_wrapped hroom hbefore
  exact absurd (congrArg (isNumber (Decimal.ofInt 0)) (hafter.symm.trans hkept)) (by decide +kernel)

end Document

end Worksheet
