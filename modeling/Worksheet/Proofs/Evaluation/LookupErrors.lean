import Worksheet.Proofs.Evaluation.FormulaCells
import Worksheet.Proofs.Evaluation.RangeAggregates
import Worksheet.Proofs.Script.UnhandledRuns

/-!
# Errors of lookups

Where a script has no handlers, neither `try` nor a function of the library that keeps faults to itself, a lookup that
fails ends the evaluation of its formula, and the code of the failure is what the formula answers; so it goes from a
formula in a range to the formula that asks for the range. This holds with any engine in which nothing else handles
faults. The word `try` is not enough to tell scripts with handlers from others.

* `LookupFails`, `answer_eq_error_iff` : the codes with which a lookup can fail;
* `run_of_failure` : no lookup follows one that fails, and the script ends with the fault that it raises;
* `FailsFor` : a formula that fails because of another one in a range;
* `FailsFor.evaluateStep_eq`, `evaluateStep_of_failsFor` : it fails with the same code, through any number of ranges;
* `evaluateStep_lookupError` : what becomes of the error of a lookup;
* `not_always_lookupError` : a function of the library that keeps it to itself.
-/

namespace Worksheet

open Script Formula

/-! ## Lookups that fail -/

/-- The ways in which a lookup fails, for the cell of a context: a cell lies past the extent or is the cell of the
context itself, a formula in a range fails first, or a column or row is negative. -/
inductive LookupFails (g : Grid) (nested : Context → String → Result) (ctx : Context) : Lookup → ErrorCode → Prop
  | outOfRange {column row : Nat} (h : g.extent.contains (CellRef.toCoord ⟨column, row⟩) = false) :
      LookupFails g nested ctx (.cell column row) .outOfRange
  | selfReference {column row : Nat} (hin : g.extent.contains (CellRef.toCoord ⟨column, row⟩) = true)
      (h : CellRef.toCoord ⟨column, row⟩ = ctx.current) : LookupFails g nested ctx (.cell column row) .selfReference
  | nested {column₁ row₁ column₂ row₂ : Nat} {d : Coord} {c : ErrorCode}
      (h : g.FirstFailure ctx nested (CellRef.toCoord ⟨column₁, row₁⟩) (CellRef.toCoord ⟨column₂, row₂⟩) d c) :
      LookupFails g nested ctx (.range column₁ row₁ column₂ row₂) c
  | negative : LookupFails g nested ctx .negative .ref

section

variable {g : Grid} {nested : Context → String → Result} {ctx : Context}

theorem resolveCell_eq_error_iff {d : Coord} {c : ErrorCode} :
    resolveCell g d ctx = .error c ↔ g.extent.contains d = false ∧ c = .outOfRange ∨
      g.extent.contains d = true ∧ d = ctx.current ∧ c = .selfReference := by
  unfold resolveCell
  cases g.extent.contains d with
  | false => simp [eq_comm]
  | true => by_cases hcurrent : d = ctx.current <;> simp [hcurrent, eq_comm]

theorem answer_eq_error_iff {q : Lookup} {c : ErrorCode} :
    answer g nested ctx q = .error c ↔ LookupFails g nested ctx q c := by
  cases q with
  | cell column row =>
    rw [answer, map_eq_error_iff, resolveCell_eq_error_iff]
    constructor
    · rintro (⟨hout, rfl⟩ | ⟨hin, hcurrent, rfl⟩)
      · exact .outOfRange hout
      · exact .selfReference hin hcurrent
    · intro h
      cases h with
      | outOfRange hout => exact .inl ⟨hout, rfl⟩
      | selfReference hin hcurrent => exact .inr ⟨hin, hcurrent, rfl⟩
  | range column₁ row₁ column₂ row₂ =>
    refine (map_eq_error_iff _).trans (resolveRange_eq_error_iff.trans ⟨?_, ?_⟩)
    · rintro ⟨d, hfirst⟩
      exact .nested hfirst
    · intro h
      cases h with
      | nested hfirst => exact ⟨_, hfirst⟩
  | negative =>
    constructor
    · intro h
      cases h
      exact .negative
    · rintro ⟨⟩
      rfl

/-! ## Formulas that ask -/

/-- Without handlers, a lookup that fails is the last one, and the engine ends with the fault that it raises. -/
theorem run_of_failure [E : Engine] (hengine : E.OnlyHandlersHandle) {limit : Nat} {formula : String}
    (hfree : isHandlerFree (toScript formula) = true) {q : Lookup} {before after : List Lookup}
    (hasked : (Engine.run limit (toScript formula)).asked (answer g nested ctx) = before ++ q :: after) {c : ErrorCode}
    (hreply : answer g nested ctx q = .error c) :
    after = [] ∧ Raises c ((E.run limit (toScript formula)).run (answer g nested ctx)) := by
  have hstrict := (hengine limit _ hfree).strict
  have hq : q ∈ (E.run limit (toScript formula)).asked (answer g nested ctx) := by
    rw [hasked]
    exact List.mem_append_right before List.mem_cons_self
  exact ⟨hstrict.nil_of_asked hasked hreply, hstrict.fails_of_asked hq hreply⟩

end

/-! ## Formulas in ranges -/

variable {g : Grid} {o : Options}

/-- The formula of a pair fails because of the one of another pair: it has no handlers, and it asks for a range in which
that formula fails before any other one. -/
inductive FailsFor [Engine] (g : Grid) (o : Options) : Context × String → Context × String → Prop
  | range {ctx : Context} {formula inner : String} {column₁ row₁ column₂ row₂ : Nat} {d : Coord} {c : ErrorCode}
      (hfree : isHandlerFree (toScript formula) = true)
      (hasked : .range column₁ row₁ column₂ row₂ ∈
        (Engine.run o.maxOperations (toScript formula)).asked (answer g (evaluateIn g o) ctx))
      (hfirst : g.FirstFailure ctx (evaluateIn g o) (CellRef.toCoord ⟨column₁, row₁⟩) (CellRef.toCoord ⟨column₂, row₂⟩)
        d c)
      (hinner : formula? (g.get d) = some inner) : FailsFor g o (ctx, formula) (ctx.nested d, inner)

theorem FailsFor.depth_eq [Engine] {e e' : Context × String} (h : FailsFor g o e e') : e'.1.depth = e.1.depth + 1 := by
  cases h
  rfl

theorem FailsFor.evaluateStep_eq [E : Engine] (hengine : E.OnlyHandlersHandle) {e e' : Context × String}
    (h : FailsFor g o e e') {c : ErrorCode} (hfails : evaluateIn g o e'.1 e'.2 = .error c) :
    evaluateStep g o.maxOperations (evaluateIn g o) e.1 e.2 = .error c := by
  cases h with
  | range hfree hasked hfirst hinner =>
    obtain ⟨inner', hinner', hcode⟩ := hfirst.fails
    obtain rfl := Option.some.inj (hinner.symm.trans hinner')
    obtain rfl := Except.error.inj (hcode.symm.trans hfails)
    obtain ⟨before, after, hsplit⟩ := List.append_of_mem hasked
    have hreply := answer_eq_error_iff.mpr (.nested hfirst)
    exact evaluateStep_of_raises (run_of_failure hengine hfree hsplit hreply).2

theorem evaluateIn_of_step_error [Engine] {ctx : Context} (hdepth : ctx.depth ≤ o.maxDepth) {formula : String}
    {c : ErrorCode} (hstep : evaluateStep g o.maxOperations (evaluateIn g o) ctx formula = .error c) :
    evaluateIn g o ctx formula = .error c := by
  rw [evaluateIn_eq g hdepth, followChain, hstep]

/-- The code of a formula that fails gets through any number of ranges. -/
theorem evaluateStep_of_failsFor [E : Engine] (hengine : E.OnlyHandlersHandle) {e last : Context × String}
    (h : Relation.ReflTransGen (FailsFor g o) e last) (hdepth : last.1.depth ≤ o.maxDepth) {c : ErrorCode}
    (hlast : evaluateStep g o.maxOperations (evaluateIn g o) last.1 last.2 = .error c) :
    e.1.depth ≤ o.maxDepth ∧ evaluateStep g o.maxOperations (evaluateIn g o) e.1 e.2 = .error c := by
  induction h using Relation.ReflTransGen.head_induction_on with
  | refl => exact ⟨hdepth, hlast⟩
  | head hfirst _ ih =>
    obtain ⟨hwithin, hstep⟩ := ih
    have hdeeper := hfirst.depth_eq
    exact ⟨by omega, hfirst.evaluateStep_eq hengine (evaluateIn_of_step_error hwithin hstep)⟩

/-! ## The error of a lookup -/

/-- With any engine in which only handlers handle faults: where a formula has no handlers and one of its lookups fails,
because a place is past the extent, is that of the cell itself or has a negative column or row, or because a formula in
a range fails, no lookup follows. The engine ends with the fault that the lookup raises, inside whatever calls and
modules it leaves, and the formula fails with the code of the lookup. So does each formula that fails because of this
one, through any number of ranges that are nested in each other. -/
theorem evaluateStep_lookupError [E : Engine] (hengine : E.OnlyHandlersHandle) {ctx : Context} {formula : String}
    (hfree : isHandlerFree (toScript formula) = true) {q : Lookup} {before after : List Lookup}
    (hasked : (E.run o.maxOperations (toScript formula)).asked (answer g (evaluateIn g o) ctx) = before ++ q :: after)
    {c : ErrorCode} (hreply : answer g (evaluateIn g o) ctx q = .error c) :
    LookupFails g (evaluateIn g o) ctx q c ∧ after = [] ∧
      Raises c ((E.run o.maxOperations (toScript formula)).run (answer g (evaluateIn g o) ctx)) ∧
      evaluateStep g o.maxOperations (evaluateIn g o) ctx formula = .error c ∧
      ∀ outer, Relation.ReflTransGen (FailsFor g o) outer (ctx, formula) → ctx.depth ≤ o.maxDepth →
        evaluateStep g o.maxOperations (evaluateIn g o) outer.1 outer.2 = .error c := by
  obtain ⟨hlast, hraises⟩ := run_of_failure hengine hfree hasked hreply
  have hstep := evaluateStep_of_raises hraises
  exact ⟨answer_eq_error_iff.mp hreply, hlast, hraises, hstep, fun outer houter hdepth =>
    (evaluateStep_of_failsFor hengine houter hdepth hstep).2⟩

def leftward : String :=
  "fn beside(n) \x7b CELL(0 - n, 0) \x7d beside(1) + 1"

def surrounded : String :=
  "let s = 1; for i in 0..3 \x7b s += MAX(C1, SUM(A1:A1)); \x7d s"

def leftwardReply : Lookup → Reply
  | .cell _ _ => .ok (.text "")
  | .range .. | .negative => .error .ref

-- what is read off a script stands in one statement, so that the script is read once
theorem leftward_read :
    isHandlerFree (toScript leftward) = true ∧
      (Engine.run Options.default.maxOperations (toScript leftward)).asked leftwardReply = [.negative] := by
  decide +kernel

theorem surrounded_read :
    isHandlerFree (toScript surrounded) = true ∧
      (Engine.run Options.default.maxOperations (toScript surrounded)).asked leftwardReply =
        [.cell 2 0, .range 0 0 0 0] := by
  decide +kernel

section

variable {nested : Context → String → Result} {ctx : Context}

theorem asked_leftward_answer : (Engine.run Options.default.maxOperations (toScript leftward)).asked
    (answer (Grid.single leftward) nested ctx) = [.negative] := by
  refine (Dialogue.asked_congr fun q hq => ?_).trans leftward_read.2
  rw [leftward_read.2, List.mem_singleton] at hq
  rw [hq]
  rfl

theorem asked_surrounded_answer
    (hrange : answer (Grid.single leftward) nested ⟨⟨2, 1⟩, 0⟩ (.range 0 0 0 0) = .error .ref) :
    (Engine.run Options.default.maxOperations (toScript surrounded)).asked
      (answer (Grid.single leftward) nested ⟨⟨2, 1⟩, 0⟩) = [.cell 2 0, .range 0 0 0 0] := by
  refine (Dialogue.asked_congr fun q hq => ?_).trans surrounded_read.2
  rw [surrounded_read.2] at hq
  rcases List.mem_pair.mp hq with rfl | rfl
  · rfl
  · exact hrange

end

/-- The loop is left in its first turn with the code of the formula in `A1`. -/
theorem evaluateStep_lookupError_surrounded :
    interpreter.OnlyHandlersHandle ∧ isHandlerFree (toScript leftward) = true ∧
      Raises .ref ((Engine.run Options.default.maxOperations (toScript leftward)).run
        (answer (Grid.single leftward) (evaluateIn (Grid.single leftward) .default) ⟨⟨1, 1⟩, 1⟩)) ∧
      evaluateStep (Grid.single leftward) Options.default.maxOperations (evaluateIn (Grid.single leftward) .default)
        ⟨⟨1, 1⟩, 1⟩ leftward = .error .ref ∧
      evaluateStep (Grid.single leftward) Options.default.maxOperations (evaluateIn (Grid.single leftward) .default)
        ⟨⟨2, 1⟩, 0⟩ surrounded = .error .ref := by
  have hasked : (Engine.run Options.default.maxOperations (toScript leftward)).asked
      (answer (Grid.single leftward) (evaluateIn (Grid.single leftward) .default) ⟨⟨1, 1⟩, 1⟩) =
        [] ++ .negative :: [] := asked_leftward_answer
  obtain ⟨-, -, hraises, hstep, houter⟩ :=
    evaluateStep_lookupError (o := .default) interpreter_onlyHandlersHandle leftward_read.1 hasked rfl
  have hinner : evaluateIn (Grid.single leftward) .default ⟨⟨1, 1⟩, 1⟩ leftward = .error .ref :=
    evaluateIn_of_step_error (by decide) hstep
  have hformula : formula? ((Grid.single leftward).get ⟨1, 1⟩) = some leftward := by
    rw [Grid.single_get, formula?_ofFormula]
  have hinside : (Grid.single leftward).extent.contains ⟨1, 1⟩ = true := by
    show Extent.contains ⟨3, 3⟩ ⟨1, 1⟩ = true
    decide
  have hfirst : (Grid.single leftward).FirstFailure ⟨⟨2, 1⟩, 0⟩ (evaluateIn (Grid.single leftward) .default)
      (CellRef.toCoord ⟨0, 0⟩) (CellRef.toCoord ⟨0, 0⟩) ⟨1, 1⟩ .ref := {
    clips := ⟨by decide, by decide, by decide, by decide, hinside⟩
    fails := ⟨leftward, hformula, hinner⟩
    before := by
      rintro ⟨x, y⟩ ⟨hleft, -, htop, -, -⟩ hbefore
      unfold Coord.Before at hbefore
      dsimp only [CellRef.toCoord] at hleft htop hbefore
      omega }
  have hrange := answer_eq_error_iff.mpr (.nested hfirst)
  have hmem : .range 0 0 0 0 ∈ (Engine.run Options.default.maxOperations (toScript surrounded)).asked
      (answer (Grid.single leftward) (evaluateIn (Grid.single leftward) .default) ⟨⟨2, 1⟩, 0⟩) := by
    rw [asked_surrounded_answer hrange]
    decide
  have hfailsFor : FailsFor (Grid.single leftward) .default (⟨⟨2, 1⟩, 0⟩, surrounded) (⟨⟨1, 1⟩, 1⟩, leftward) :=
    .range surrounded_read.1 hmem hfirst hformula
  have hdepth : Context.depth ⟨⟨1, 1⟩, 1⟩ ≤ Options.default.maxDepth := by decide
  exact ⟨interpreter_onlyHandlersHandle, leftward_read.1, hraises, hstep,
    houter (⟨⟨2, 1⟩, 0⟩, surrounded) (.single hfailsFor) hdepth⟩

/-! ## An error that is absorbed -/

/-- How many numbers are left of two that a lookup past the extent tells apart. -/
def absorbing : String :=
  "fn far(x, y) \x7b A99 \x7d let a = [1, 2]; a.dedup(Fn(\"far\")); a.len()"

theorem absorbing_read :
    lacks [] (toScript absorbing) = true ∧
      AnswersAfter Options.default.maxOperations absorbing (.cell 0 98) (.error .outOfRange) (Decimal.ofInt 2) := by
  decide +kernel

/-- A script without `try` in which a lookup fails has a value all the same: `dedup` goes on when the function that it
is given has a fault. -/
theorem not_always_lookupError :
    lacks [] (toScript absorbing) = true ∧
      (Engine.run Options.default.maxOperations (toScript absorbing)).asked
        (answer (Grid.single "2*3") (evaluateIn (Grid.single "2*3") .default) (.root ⟨2, 1⟩)) = [.cell 0 98] ∧
      answer (Grid.single "2*3") (evaluateIn (Grid.single "2*3") .default) (.root ⟨2, 1⟩) (.cell 0 98) =
        .error .outOfRange ∧
      evaluateStep (Grid.single "2*3") Options.default.maxOperations (evaluateIn (Grid.single "2*3") .default)
        (.root ⟨2, 1⟩) absorbing = .ok (.number (Decimal.ofInt 2)) := by
  have hreply : answer (Grid.single "2*3") (evaluateIn (Grid.single "2*3") .default) (.root ⟨2, 1⟩) (.cell 0 98) =
      .error .outOfRange := rfl
  have hasked := absorbing_read.2.asked_answer hreply
  rw [dialogue, Dialogue.asked_map] at hasked
  exact ⟨absorbing_read.1, hasked, hreply, absorbing_read.2.evaluateStep_eq hreply⟩

end Worksheet
