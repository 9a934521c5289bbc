import Mathlib.Data.List.Forall2
import Worksheet.CommandLine.Run
import Worksheet.Proofs.Document.Tables

/-!
# What a cell shows

The sheet that is open, the table of it and the lines that a run prints for single cells say the same of a cell. A
literal shows itself and a formula its value; a formula that fails shows a marker, and its code where there is room.

* `Document.display_of_ok`, `Document.display_of_error` : what a cell shows is what it evaluates to;
* `report_of_names`, `report_of_other` : a run prints a line for each cell that it is asked for;
* `shown_agrees` : one cell in the sheet, in the table and on its line;
* `not_always_rendered` : the labels of headers.
-/

namespace Worksheet

/-! ## Open sheets -/

namespace Document

variable {σ : Type} {d : Document σ} {c : Coord}

/-- What is shown follows what is evaluated, though literals are told from formulas twice. -/
theorem display_eq (d : Document σ) (c : Coord) :
    d.display c = match d.evaluate c with
      | .ok v => v.display
      | .error _ => d.options.invalidDisplay := by
  unfold display computeDisplay evaluate evaluateCell raw
  cases formula? (d.grid.get c) with
  | none => rfl
  | some formula =>
    dsimp only [Option.map_some]
    cases Worksheet.evaluate d.grid d.options c formula <;> rfl

theorem display_of_ok {v : CellValue} (h : d.evaluate c = .ok v) : d.display c = v.display := by
  rw [display_eq, h]

theorem display_of_error {code : ErrorCode} (h : d.evaluate c = .error code) :
    d.display c = d.options.invalidDisplay := by
  rw [display_eq, h]

end Document

namespace CommandLine

/-! ## Lines -/

section

variable {d : Document FileStore} {names : List String} {cs : List Coord}
  (h : List.Forall₂ (fun name c => Document.coordOf name = .ok c) names cs)
include h

theorem evaluations_append (raw : Bool) (rest : List String) :
    evaluations d raw (names ++ rest) =
      (String.join (cs.map (evaluationLine d raw)) ++ (evaluations d raw rest).1, (evaluations d raw rest).2) := by
  induction h with
  | nil => rw [List.nil_append, List.map_nil, String.join_nil, String.empty_append]
  | @cons name c names cs hname _ ih =>
    rw [List.cons_append, evaluations, hname]
    dsimp only
    rw [ih, List.map_cons, String.join_cons, String.append_assoc]

theorem report_of_names {a : Arguments} (ha : a.evals = names) (hne : names ≠ []) :
    report a d = (String.join (cs.map (evaluationLine d a.raw)), none) := by
  have hlines := evaluations_append h (d := d) a.raw []
  rw [List.append_nil, evaluations, String.append_empty] at hlines
  rw [report, ha, if_neg (by simpa using hne), hlines]

theorem report_of_other {a : Arguments} {name : String} {rest : List String} (ha : a.evals = names ++ name :: rest)
    {f : Failure} (hname : Document.coordOf name = .error f) :
    report a d = (String.join (cs.map (evaluationLine d a.raw)), some f) := by
  rw [report, ha, if_neg (by simp), evaluations_append h, evaluations, hname, String.append_empty]

end

/-! ## Cells -/

/-- What a cell shows is what it evaluates to, or the marker if it fails. The line that is printed for it has that same
text, and the code exactly if it fails, and the table has that text at the cell's place. With stored texts, the line and
the table have the cell's own. -/
theorem shown_agrees {σ : Type} (d : Document σ) (c : Coord) :
    (∀ v, d.evaluate c = .ok v →
      d.display c = v.display ∧ evaluationLine d false c = c.name ++ "\t" ++ d.display c ++ "\n") ∧
    (∀ code, d.evaluate c = .error code →
      d.display c = d.options.invalidDisplay ∧
        evaluationLine d false c = c.name ++ "\t" ++ d.display c ++ "\t" ++ code.text ++ "\n") ∧
    evaluationLine d true c = c.name ++ "\t" ++ d.raw c ++ "\n" ∧
    (c.isHeader = false → d.grid.extent.contains c = true →
      d.render[c.y]?.bind (·[c.x]?) = some (d.display c) ∧ d.renderRaw[c.y]?.bind (·[c.x]?) = some (d.raw c)) := by
  refine ⟨fun v hv => ?_, fun code hcode => ?_, rfl, fun hdata hin => ?_⟩
  · refine ⟨Document.display_of_ok hv, ?_⟩
    rw [Document.display_of_ok hv, evaluationLine, if_neg Bool.false_ne_true, hv]
  · refine ⟨Document.display_of_error hcode, ?_⟩
    rw [Document.display_of_error hcode, evaluationLine, if_neg Bool.false_ne_true, hcode]
  · exact ⟨d.getElem?_renderWith_data d.display hdata hin, d.getElem?_renderWith_data d.raw hdata hin⟩

/-- A sheet whose first cell fails and whose second one has a value. -/
def quotientSheet : Document FileStore :=
  { Document.new Config.default with
    grid := ((Grid.new ⟨2, 1⟩).set ⟨1, 1⟩ "=1/0").set ⟨2, 1⟩ "=2*3" }

theorem evaluate_quotientSheet : quotientSheet.evaluate ⟨1, 1⟩ = .error .divZero := by
  have hcode : (match quotientSheet.evaluate ⟨1, 1⟩ with
      | .ok _ => none
      | .error code => some code) = some ErrorCode.divZero := by
    decide +kernel
  cases hresult : quotientSheet.evaluate ⟨1, 1⟩ with
  | ok v =>
    rw [hresult] at hcode
    cases hcode
  | error code =>
    rw [hresult] at hcode
    rw [Option.some.inj hcode]

theorem shown_agrees_quotientSheet :
    (quotientSheet.evaluate ⟨1, 1⟩ = .error .divZero ∧ quotientSheet.display ⟨1, 1⟩ = "INVALID" ∧
      evaluationLine quotientSheet false ⟨1, 1⟩ = "A1\tINVALID\t#DIV/0!\n" ∧
      quotientSheet.render[1]?.bind (·[1]?) = some "INVALID" ∧
      quotientSheet.renderRaw[1]?.bind (·[1]?) = some "=1/0") ∧
    ∃ v, quotientSheet.evaluate ⟨2, 1⟩ = .ok v ∧ quotientSheet.display ⟨2, 1⟩ = v.display ∧
      evaluationLine quotientSheet false ⟨2, 1⟩ = "B1\t6\n" := by
  have hshown : quotientSheet.display ⟨2, 1⟩ = "6" := by decide +kernel
  obtain ⟨-, hfails, -, htable⟩ := shown_agrees quotientSheet ⟨1, 1⟩
  obtain ⟨hanswers, hfails', -, -⟩ := shown_agrees quotientSheet ⟨2, 1⟩
  obtain ⟨hmarker, hline⟩ := hfails _ evaluate_quotientSheet
  obtain ⟨hentry, hraw⟩ := htable (by decide) (by decide)
  rw [hmarker] at hline hentry
  refine ⟨⟨evaluate_quotientSheet, hmarker, hline.trans (by decide +kernel), hentry, hraw⟩, ?_⟩
  cases hresult : quotientSheet.evaluate ⟨2, 1⟩ with
  | ok v =>
    obtain ⟨hdisplay, hline⟩ := hanswers v hresult
    rw [hshown] at hline
    exact ⟨v, rfl, hdisplay, hline.trans (by decide +kernel)⟩
  | error code => exact absurd (hshown.symm.trans (hfails' code hresult).1) (by decide)

/-- Not every entry of a table is what its place shows: the headers have labels, though nothing is stored there. -/
theorem not_always_rendered :
    ¬∀ (d : Document FileStore) (c : Coord), d.grid.extent.contains c = true →
      d.render[c.y]?.bind (·[c.x]?) = some (d.display c) := by
  intro hall
  have hentry : quotientSheet.render[0]?.bind (·[1]?) = some "A" := by decide +kernel
  have hshown : quotientSheet.display ⟨1, 0⟩ = "" := by decide +kernel
  have hsame := (hall quotientSheet ⟨1, 0⟩ (by decide)).symm.trans hentry
  rw [hshown] at hsame
  exact absurd hsame (by decide)

end CommandLine

end Worksheet
