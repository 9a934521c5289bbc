import Worksheet.Proofs.Evaluation.FormulaCells

/-!
# Names past the extent

A name past the extent is out of range as long as its column and its row, counted from zero, are integers of
scripts. The index of a cell farther away is read as a float, for which there is no lookup.

* `toScript_name_of_lt` : every name becomes a lookup;
* `run_far` : a lookup that is out of reach is an unknown function;
* `evaluate_pastExtent` : what a name past the extent evaluates to.
-/

namespace Worksheet

open Script Script.Lexer Formula Text Decimal

/-! ## The script of a name -/

theorem toScript_name_of_lt {r : CellRef} (hcolumn : r.column + 1 < wordBound) (hrow : r.row + 1 < wordBound) :
    toScript r.name = String.ofList (Reference.cell r).script := by
  have hmatch : matchAt? (r.nameChars ++ []) = some ⟨r.nameChars, none, []⟩ := matchAt?_name r (Stops.nil _) rfl
  have href : Candidate.reference? ⟨r.nameChars, none, []⟩ = some (.cell r) := by
    rw [Candidate.reference?, CellRef.ofChars?_nameChars hcolumn hrow]
    rfl
  have hexpand := expandFrom_candidate (nameChars_ne_nil r) hmatch rfl href
  rw [List.append_nil] at hexpand
  rw [CellRef.name, toScript_of_ordinary (isOrdinary_of_mem_nameChars r), hexpand]
  simp [expandFrom]

def lookupCall (r : CellRef) : Expr :=
  .call "CELL" [.literal (wholeLiteral r.column), .literal (wholeLiteral r.row)]

theorem tokens?_cell (r : CellRef) :
    tokens? (String.ofList (Reference.cell r).script) =
      some [.name "CELL", .openParen, (wholeLiteral r.column).token, .comma, (wholeLiteral r.row).token,
        .closeParen] := by
  have hscript := Reference.script_cell r []
  rw [List.append_nil] at hscript
  have hword : ∀ c ∈ "CELL".toList, c.isAlpha = true := List.all_eq_true.mp rfl
  rw [tokens?, String.toList_ofList, hscript,
    tokensFrom_word true [] hword (by decide) (Stops.cons (by decide) _) Reference.ofWord?_cell,
    tokensFrom_openParen _ _ (Reference.stops_toDigits_of_isAlphanum _ _) (by simp),
    tokensFrom_digits _ _ (wholeToken?_eq r.column) (Stops.cons (by decide) _), tokensFrom_comma, tokensFrom_blank,
    tokensFrom_digits _ _ (wholeToken?_eq r.row) (Stops.cons (by decide) _), tokensFrom_closeParen, tokensFrom]
  rfl

theorem parse?_cell (r : CellRef) :
    Program.parse? (String.ofList (Reference.cell r).script) = some ⟨[], [.expr (lookupCall r)]⟩ := by
  refine parse?_of_tokens (tokens?_cell r) ?_
  unfold lookupCall wholeLiteral
  by_cases hcolumn : r.column < 2 ^ 63 <;> by_cases hrow : r.row < 2 ^ 63
  · rw [if_pos hcolumn, if_pos hrow]
    rfl
  · rw [if_pos hcolumn, if_neg hrow]
    rfl
  · rw [if_neg hcolumn, if_pos hrow]
    rfl
  · rw [if_neg hcolumn, if_neg hrow]
    rfl

/-! ## Lookups out of reach -/

theorem callNative_far {r : CellRef} (h : ¬ r.InReach) :
    callNative "CELL" [(wholeLiteral r.column).value, (wholeLiteral r.row).value] = Run.fail .unknownName := by
  unfold wholeLiteral
  by_cases hcolumn : r.column < 2 ^ 63
  · have hrow : ¬ r.row < 2 ^ 63 := fun hrow => h ⟨hcolumn, hrow⟩
    rw [if_pos hcolumn, if_neg hrow]
    rfl
  · rw [if_neg hcolumn]
    split <;> rfl

theorem value_lookupCall (r : CellRef) (room : Nat) :
    (lookupCall r).value bareMachine ⟨room + 3, []⟩ =
      callNative "CELL" [(wholeLiteral r.column).value, (wholeLiteral r.row).value] ⟨room, []⟩ := by
  rw [lookupCall, Expr.value]
  show Run.bind (values bareMachine _) (fun vs => bareMachine.call "CELL" vs) _ = _
  simp [Run.bind, values, Run.ticked, Run.tick, Machine.call, bareMachine, Expr.value, Dialogue.bind, Bind.bind, Pure.pure]

theorem run_far {r : CellRef} (h : ¬ r.InReach) {limit : Nat} (hlimit : Suffices limit) (answer : Lookup → Reply) :
    (dialogue limit (String.ofList (Reference.cell r).script)).run answer = .error .name := by
  obtain ⟨room, hroom⟩ := hlimit.exists_room (by decide : 3 ≤ 7)
  rw [run_dialogue_expr hroom (parse?_cell r) rfl rfl, value_lookupCall, callNative_far h]
  rfl

/-! ## Evaluation -/

theorem evaluateStep_pastExtent {g : Grid} {limit : Nat} (hlimit : Suffices limit)
    (nested : Context → String → Result) (ctx : Context) {t : Coord} (hdata : 1 ≤ t.x ∧ 1 ≤ t.y)
    (hword : t.x < wordBound ∧ t.y < wordBound) (hpast : g.extent.contains t = false) :
    evaluateStep g limit nested ctx t.name = .error (if t.x ≤ 2 ^ 63 ∧ t.y ≤ 2 ^ 63 then .outOfRange else .name) := by
  by_cases hnear : t.x ≤ 2 ^ 63 ∧ t.y ≤ 2 ^ 63
  · rw [if_pos hnear, evaluateStep_name hlimit nested ctx ⟨hdata.1, hdata.2, hnear.1, hnear.2⟩, resolveCell, hpast]
    rfl
  · have hcoord : CellRef.toCoord ⟨t.x - 1, t.y - 1⟩ = t := by
      rw [CellRef.toCoord, Nat.sub_add_cancel hdata.1, Nat.sub_add_cancel hdata.2]
    generalize (⟨t.x - 1, t.y - 1⟩ : CellRef) = r at hcoord
    subst hcoord
    have hfar : ¬ r.InReach := by
      rintro ⟨hcolumn, hrow⟩
      exact hnear ⟨hcolumn, hrow⟩
    rw [if_neg hnear, CellRef.name_toCoord,
      evaluateStep_of_run nested ctx (by rw [toScript_name_of_lt hword.1 hword.2, run_far hfar hlimit])]
    rfl

/-- A name past the extent is out of range, unless its column or its row, counted from one, is greater than
`2 ^ 63`: then it is an unknown function, whatever the grid holds. -/
theorem evaluate_pastExtent {g : Grid} {o : Options} (ho : Suffices o.maxOperations) (p : Coord) {t : Coord}
    (hdata : 1 ≤ t.x ∧ 1 ≤ t.y) (hword : t.x < wordBound ∧ t.y < wordBound)
    (hpast : g.extent.contains t = false) :
    evaluate g o p t.name = .error (if t.x ≤ 2 ^ 63 ∧ t.y ≤ 2 ^ 63 then .outOfRange else .name) := by
  rw [evaluate_eq, followChain, outerStep, evaluateStep_pastExtent ho _ _ hdata hword hpast]

theorem evaluate_pastExtent_columns :
    Suffices Options.default.maxOperations ∧
      (Grid.new ⟨3, 3⟩).extent.contains ⟨9223372036854775808, 1⟩ = false ∧
      evaluate (Grid.new ⟨3, 3⟩) Options.default ⟨1, 1⟩ "CRPXNLSKVLJFHH1" = .error .outOfRange ∧
      (Grid.new ⟨3, 3⟩).extent.contains ⟨9223372036854775809, 1⟩ = false ∧
      evaluate (Grid.new ⟨3, 3⟩) Options.default ⟨1, 1⟩ "CRPXNLSKVLJFHI1" = .error .name := by
  have hlast : (⟨9223372036854775808, 1⟩ : Coord).name = "CRPXNLSKVLJFHH1" := by decide +kernel
  have hnext : (⟨9223372036854775809, 1⟩ : Coord).name = "CRPXNLSKVLJFHI1" := by decide +kernel
  refine ⟨suffices_default, by decide, ?_, by decide, ?_⟩
  · rw [← hlast, evaluate_pastExtent suffices_default _ (by decide) (by decide) (by decide)]
    rfl
  · rw [← hnext, evaluate_pastExtent suffices_default _ (by decide) (by decide) (by decide)]
    rfl

/-- The name of a cell far past the extent is not out of range but unknown. -/
theorem not_always_outOfRange :
    evaluate (Grid.new ⟨3, 3⟩) Options.default ⟨1, 1⟩ "A9223372036854775809" = .error .name ∧
      ¬ ∀ (g : Grid) (p t : Coord), 1 ≤ t.x ∧ 1 ≤ t.y → t.x < wordBound ∧ t.y < wordBound →
        g.extent.contains t = false → evaluate g Options.default p t.name = .error .outOfRange := by
  have hname : (⟨1, 9223372036854775809⟩ : Coord).name = "A9223372036854775809" := by decide +kernel
  have hfar : evaluate (Grid.new ⟨3, 3⟩) Options.default ⟨1, 1⟩ "A9223372036854775809" = .error .name := by
    rw [← hname, evaluate_eq, followChain, outerStep,
      evaluateStep_pastExtent suffices_default _ _ (by decide) (by decide) (by decide)]
    rfl
  refine ⟨hfar, fun h => ?_⟩
  have hpast := h (Grid.new ⟨3, 3⟩) ⟨1, 1⟩ ⟨1, 9223372036854775809⟩ (by decide) (by decide) (by decide)
  rw [hname, hfar] at hpast
  cases hpast

end Worksheet
