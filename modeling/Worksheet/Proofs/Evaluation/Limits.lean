import Worksheet.Proofs.Evaluation.FormulaCells
import Worksheet.Proofs.Evaluation.Levels
import Worksheet.Proofs.Script.UnhandledRuns

/-!
# Limits only cut off

Where no script has a handler, neither `try` nor a function of the library that keeps faults to itself, a value that an
evaluation answers stays the same when more levels may be nested or more formulas may follow one another. So a range
takes a cell for the value that the cell itself shows. This holds with any engine in which nothing else handles faults.

* `Leads`, `NoHandlers` : the formulas that are evaluated for a formula, and that none of them has a handler;
* `answer_of_more`, `evaluateStep_of_more`, `followChain_of_more` : a lookup, a step and a chain that answer do so
  with more levels and a longer chain as well;
* `evaluateIn_of_more` : an evaluation with more room;
* `evaluateIn_limits` : the same cell at the outermost level, and larger limits;
* `not_always_cutOff` : a function of the library by which a value may change.
-/

namespace Worksheet

open Script Formula

/-! ## Formulas that are evaluated -/

/-- The evaluation of a formula leads to that of another one: of the one that its value shows as, for the same
cell, or of one in a range that it asks for, for the cell of that one and one level deeper. -/
inductive Leads [Engine] (g : Grid) (o : Options) : Context × String → Context × String → Prop
  | chain {ctx : Context} {formula next : String}
      (h : Goes (evaluateStep g o.maxOperations (evaluateIn g o) ctx) formula next) :
      Leads g o (ctx, formula) (ctx, next)
  | range {ctx : Context} {formula inner : String} {column₁ row₁ column₂ row₂ : Nat} {d : Coord}
      (hasked : .range column₁ row₁ column₂ row₂ ∈
        (dialogue o.maxOperations (toScript formula)).asked (answer g (evaluateIn g o) ctx))
      (hreaches : g.Reaches (.range column₁ row₁ column₂ row₂) d) (hinner : formula? (g.get d) = some inner) :
      Leads g o (ctx, formula) (ctx.nested d, inner)

/-- Whether none of the formulas that are evaluated for a formula, itself included, has a handler. -/
def NoHandlers [Engine] (g : Grid) (o : Options) (ctx : Context) (formula : String) : Prop :=
  ∀ e, Relation.ReflTransGen (Leads g o) (ctx, formula) e → isHandlerFree (toScript e.2) = true

/-! ## More room -/

section

variable {g : Grid} {ctx ctx' : Context} {nested nested' : Context → String → Result}
  (hcurrent : ctx'.current = ctx.current)
include hcurrent

theorem answer_of_more {q : Lookup}
    (hnested : ∀ column₁ row₁ column₂ row₂, q = .range column₁ row₁ column₂ row₂ → ∀ d inner, g.Reaches q d →
      formula? (g.get d) = some inner →
        ∀ v, nested (ctx.nested d) inner = .ok v → nested' (ctx'.nested d) inner = .ok v)
    {v : Value} (h : answer g nested ctx q = .ok v) : answer g nested' ctx' q = .ok v := by
  cases q with
  | cell column row =>
    rw [← h, answer, answer, resolveCell, resolveCell, hcurrent]
  | range column₁ row₁ column₂ row₂ =>
    have hresolve : resolveRange (m := Id) g (CellRef.toCoord ⟨column₁, row₁⟩) (CellRef.toCoord ⟨column₂, row₂⟩)
        ctx nested = resolveRange g (CellRef.toCoord ⟨column₁, row₁⟩) (CellRef.toCoord ⟨column₂, row₂⟩) ctx'
          nested' := by
      refine resolveRange_congr_cells rfl fun d hd => ?_
      cases hrows : (resolveRange (m := Id) g (CellRef.toCoord ⟨column₁, row₁⟩) (CellRef.toCoord ⟨column₂, row₂⟩)
          ctx nested).run with
      | error c =>
        rw [answer, hrows] at h
        cases h
      | ok rows =>
        obtain ⟨-, w, -, -, hw⟩ := getElem?_of_resolveRange hrows hd
        cases hformula : formula? (g.get d) with
        | none =>
          unfold rangeCell
          rw [hformula]
        | some inner =>
          rw [rangeValue_formula hformula] at hw
          have hw' := hnested column₁ row₁ column₂ row₂ rfl d inner hd hformula w hw
          unfold rangeCell
          rw [hformula]
          exact hw.trans hw'.symm
    rw [← h]
    unfold answer
    dsimp only
    rw [hresolve]
  | negative => cases h

/-- A step without handlers that answers has got an answer to each question, and goes on as before. -/
theorem evaluateStep_of_more [E : Engine] (hengine : E.OnlyHandlersHandle) {limit : Nat} {formula : String}
    (hfree : isHandlerFree (toScript formula) = true)
    (hnested : ∀ column₁ row₁ column₂ row₂,
      .range column₁ row₁ column₂ row₂ ∈ (dialogue limit (toScript formula)).asked (answer g nested ctx) →
        ∀ d inner, g.Reaches (.range column₁ row₁ column₂ row₂) d → formula? (g.get d) = some inner →
          ∀ v, nested (ctx.nested d) inner = .ok v → nested' (ctx'.nested d) inner = .ok v)
    {v : CellValue} (h : evaluateStep g limit nested ctx formula = .ok v) :
    evaluateStep g limit nested' ctx' formula = .ok v := by
  have hasked : ∀ q ∈ (dialogue limit (toScript formula)).asked (answer g nested ctx),
      answer g nested' ctx' q = answer g nested ctx q := by
    intro q hq
    cases hreply : answer g nested ctx q with
    | error c =>
      rw [dialogue, Dialogue.asked_map] at hq
      rw [evaluateStep_of_raises ((hengine limit _ hfree).strict.fails_of_asked hq hreply)] at h
      cases h
    | ok w =>
      refine answer_of_more hcurrent ?_ hreply
      rintro column₁ row₁ column₂ row₂ rfl
      exact hnested column₁ row₁ column₂ row₂ hq
  rw [← h, evaluateStep_eq_bind, evaluateStep_eq_bind, Dialogue.run_congr hasked]

end

theorem followChain_of_more {step step' : String → Result} {formula : String}
    (hstep : ∀ next, Relation.ReflTransGen (Goes step) formula next → ∀ v, step next = .ok v → step' next = .ok v)
    {more more' : Nat} (hmore : more ≤ more') {v : CellValue} (h : followChain step more formula = .ok v) :
    followChain step' more' formula = .ok v := by
  induction more generalizing more' formula with
  | zero =>
    rw [followChain] at h
    cases hv : step formula with
    | error c => simp [hv] at h
    | ok w =>
      cases hnext : formula? w.display with
      | some next => simp [hv, hnext] at h
      | none =>
        rw [followChain, hstep formula .refl w hv]
        simpa [hv, hnext] using h
  | succ more ih =>
    obtain ⟨more', rfl⟩ := Nat.exists_eq_add_of_le' (Nat.le_trans (Nat.le_add_left 1 more) hmore)
    rw [followChain] at h
    cases hv : step formula with
    | error c => simp [hv] at h
    | ok w =>
      rw [followChain, hstep formula .refl w hv]
      cases hnext : formula? w.display with
      | none => simpa [hv, hnext] using h
      | some next =>
        simp only [hv, hnext] at h ⊢
        exact ih (fun last hlast => hstep last (.head ⟨w, hv, hnext⟩ hlast)) (Nat.le_of_succ_le_succ hmore) h

/-- An evaluation without handlers that answers a value answers it also where more levels are left and more formulas
may follow. -/
theorem evaluateIn_of_more [E : Engine] (hengine : E.OnlyHandlersHandle) {g : Grid} {o o' : Options}
    (hops : o'.maxOperations = o.maxOperations) (hchain : o.maxChain ≤ o'.maxChain) {ctx ctx' : Context} (hcurrent : ctx'.current = ctx.current)
    (hlevels : o.maxDepth + ctx'.depth ≤ o'.maxDepth + ctx.depth) {formula : String}
    (hfree : NoHandlers g o ctx formula) {v : CellValue} (h : evaluateIn g o ctx formula = .ok v) :
    evaluateIn g o' ctx' formula = .ok v := by
  induction ctx using o.level_induction generalizing ctx' formula v with
  | past ctx hdepth =>
    rw [evaluateIn_of_lt g hdepth] at h
    cases h
  | within ctx hdepth ih =>
    rw [evaluateIn_eq g hdepth] at h
    rw [evaluateIn_eq g (by omega), hops]
    refine followChain_of_more (fun next hnext w hw => ?_) hchain h
    -- every formula of the chain is evaluated for the same cell
    have hreached : Relation.ReflTransGen (Leads g o) (ctx, formula) (ctx, next) :=
      hnext.lift (fun f => (ctx, f)) fun _ _ => .chain
    refine evaluateStep_of_more hcurrent hengine (hfree _ hreached) ?_ hw
    intro column₁ row₁ column₂ row₂ hasked d inner hreaches hinner u hu
    have hcell : (ctx'.nested d).current = (ctx.nested d).current := rfl
    have hdeeper : o.maxDepth + (ctx'.nested d).depth ≤ o'.maxDepth + (ctx.nested d).depth := by
      dsimp only [Context.nested]
      omega
    refine ih d hcell hdeeper (fun e he => hfree e ?_) hu
    exact hreached.trans (.head (.range hasked hreaches hinner) he)

/-- With any engine in which only handlers handle faults, and without handlers, a value that a formula has at some depth
is the one that it has by itself for the same cell, and the one that it has with a larger limit on levels, on formulas
that follow, or on both. -/
theorem evaluateIn_limits [E : Engine] (hengine : E.OnlyHandlersHandle) {g : Grid} {o : Options} {t : Coord}
    {depth : Nat} {formula : String} (hfree : NoHandlers g o ⟨t, depth⟩ formula) {v : CellValue}
    (h : evaluateIn g o ⟨t, depth⟩ formula = .ok v) :
    evaluate g o t formula = .ok v ∧
    ∀ o' : Options, o'.maxOperations = o.maxOperations → o.maxDepth ≤ o'.maxDepth → o.maxChain ≤ o'.maxChain →
      evaluateIn g o' ⟨t, depth⟩ formula = .ok v := by
  constructor
  · have hroot : (Context.root t).current = t := rfl
    exact evaluateIn_of_more hengine rfl (Nat.le_refl _) hroot (Nat.add_le_add_left (Nat.zero_le depth) _) hfree h
  · intro o' hops hdepth hchain
    exact evaluateIn_of_more hengine hops hchain rfl (Nat.add_le_add_right hdepth _) hfree h

/-! ## A sum over a product -/

theorem evaluateStep_product (g : Grid) (nested : Context → String → Result) (ctx : Context) :
    evaluateStep g Options.default.maxOperations nested ctx "2*3" = .ok (.number (Decimal.ofInt 6)) := by
  rw [evaluateStep_eq_bind, product_done]
  rfl

theorem answersAfter_sum : AnswersAfter Options.default.maxOperations "SUM(A1:A1)" (.range 0 0 0 0)
    (cellReply (.ok (.number (Decimal.ofInt 6)))) (Decimal.ofInt 6) := by
  decide +kernel

inductive SumOverProduct : Context × String → Prop
  | sum {ctx : Context} (h : ctx.depth < Options.default.maxDepth) : SumOverProduct (ctx, "SUM(A1:A1)")
  | product {ctx : Context} : SumOverProduct (ctx, "2*3")

section

variable {ctx : Context} (h : ctx.depth < Options.default.maxDepth)
include h

theorem answer_sum : answer (Grid.single "2*3") (evaluateIn (Grid.single "2*3") Options.default) ctx (.range 0 0 0 0) =
    cellReply (.ok (.number (Decimal.ofInt 6))) := by
  have hdepth : (ctx.nested ⟨1, 1⟩).depth ≤ Options.default.maxDepth := h
  exact answer_single (evaluateIn_of_number hdepth (evaluateStep_product _ _ _))

theorem evaluateIn_sum :
    evaluateIn (Grid.single "2*3") Options.default ctx "SUM(A1:A1)" = .ok (.number (Decimal.ofInt 6)) :=
  evaluateIn_of_number (Nat.le_of_lt h) (answersAfter_sum.evaluateStep_eq (answer_sum h))

end

theorem SumOverProduct.leads {e e' : Context × String} (he : SumOverProduct e)
    (h : Leads (Grid.single "2*3") Options.default e e') : SumOverProduct e' := by
  cases h with
  | chain hgoes =>
    cases he with
    | sum hdepth => exact absurd hgoes (not_goes_of_number (answersAfter_sum.evaluateStep_eq (answer_sum hdepth)))
    | product => exact absurd hgoes (not_goes_of_number (evaluateStep_product _ _ _))
  | @range _ _ _ _ _ _ _ d hasked hreaches hinner =>
    cases he with
    | sum hdepth =>
      rw [answersAfter_sum.asked_answer (answer_sum hdepth), List.mem_singleton] at hasked
      cases hasked
      obtain rfl : d = ⟨1, 1⟩ := by
        obtain ⟨x, y⟩ := d
        obtain ⟨hleft, hright, htop, hbottom, -⟩ := hreaches
        dsimp only [CellRef.toCoord] at hleft hright htop hbottom
        rw [Coord.mk.injEq]
        omega
      rw [Grid.single_get, formula?_ofFormula] at hinner
      cases hinner
      exact .product
    | product =>
      rw [product_done] at hasked
      exact absurd hasked List.not_mem_nil

theorem noHandlers_sum {ctx : Context} (h : ctx.depth < Options.default.maxDepth) :
    NoHandlers (Grid.single "2*3") Options.default ctx "SUM(A1:A1)" := by
  intro e he
  have hsum : SumOverProduct e := by
    induction he with
    | refl => exact .sum h
    | tail _ hlast ih => exact ih.leads hlast
  have htexts : isHandlerFree (toScript "SUM(A1:A1)") = true ∧ isHandlerFree (toScript "2*3") = true := by
    decide +kernel
  cases hsum with
  | sum => exact htexts.1
  | product => exact htexts.2

/-- The sum over `A1`, three levels deep, beside the sum by itself and with larger limits. -/
theorem evaluateIn_limits_sum :
    interpreter.OnlyHandlersHandle ∧ NoHandlers (Grid.single "2*3") Options.default ⟨⟨2, 1⟩, 3⟩ "SUM(A1:A1)" ∧
      evaluateIn (Grid.single "2*3") Options.default ⟨⟨2, 1⟩, 3⟩ "SUM(A1:A1)" = .ok (.number (Decimal.ofInt 6)) ∧
      evaluate (Grid.single "2*3") Options.default ⟨2, 1⟩ "SUM(A1:A1)" = .ok (.number (Decimal.ofInt 6)) ∧
      evaluateIn (Grid.single "2*3") ⟨20, 2000, 1000000, "?"⟩ ⟨⟨2, 1⟩, 3⟩ "SUM(A1:A1)" =
        .ok (.number (Decimal.ofInt 6)) := by
  have hfree : NoHandlers (Grid.single "2*3") Options.default ⟨⟨2, 1⟩, 3⟩ "SUM(A1:A1)" := noHandlers_sum (by decide)
  have hvalue : evaluateIn (Grid.single "2*3") Options.default ⟨⟨2, 1⟩, 3⟩ "SUM(A1:A1)" =
      .ok (.number (Decimal.ofInt 6)) := evaluateIn_sum (by decide)
  obtain ⟨hroot, hlarger⟩ := evaluateIn_limits interpreter_onlyHandlersHandle hfree hvalue
  exact ⟨interpreter_onlyHandlersHandle, hfree, hvalue, hroot,
    hlarger ⟨20, 2000, 1000000, "?"⟩ rfl (by decide) (by decide)⟩

/-! ## A fault that is absorbed -/

/-- How many ones are left of two that the sum over `A1` tells apart unless it is six. -/
def counting : String :=
  "fn same(x, y) \x7b SUM(A1:A1) == 6 \x7d let a = [1, 1]; a.dedup(Fn(\"same\")); a.len()"

-- the replies in one statement, so that the formula is read once
theorem counting_read :
    lacks [] (toScript counting) = true ∧ lacks [] (toScript "2*3") = true ∧
      AnswersAfter Options.default.maxOperations counting (.range 0 0 0 0) (.error .recursionLimit)
        (Decimal.ofInt 2) ∧
      AnswersAfter Options.default.maxOperations counting (.range 0 0 0 0)
        (cellReply (.ok (.number (Decimal.ofInt 6)))) (Decimal.ofInt 1) := by
  decide +kernel

theorem evaluateIn_counting {o : Options} (hops : o.maxOperations = Options.default.maxOperations) :
    evaluateIn (Grid.single "2*3") o ⟨⟨2, 1⟩, o.maxDepth⟩ counting = .ok (.number (Decimal.ofInt 2)) ∧
      (0 < o.maxDepth → evaluateIn (Grid.single "2*3") o ⟨⟨2, 1⟩, 0⟩ counting = .ok (.number (Decimal.ofInt 1))) := by
  obtain ⟨-, -, htwo, hone⟩ := counting_read
  rw [← hops] at htwo hone
  constructor
  · have hnested : evaluateIn (Grid.single "2*3") o (Context.nested ⟨⟨2, 1⟩, o.maxDepth⟩ ⟨1, 1⟩) "2*3" =
        .error .recursionLimit := by
      have hdepth : o.maxDepth < (Context.nested ⟨⟨2, 1⟩, o.maxDepth⟩ ⟨1, 1⟩).depth := Nat.lt_succ_self o.maxDepth
      exact evaluateIn_of_lt _ hdepth _
    exact evaluateIn_of_number (Nat.le_refl _) (htwo.evaluateStep_eq (answer_single hnested))
  · intro hroom
    have hnested : evaluateIn (Grid.single "2*3") o (Context.nested ⟨⟨2, 1⟩, 0⟩ ⟨1, 1⟩) "2*3" =
        .ok (.number (Decimal.ofInt 6)) := by
      have hdepth : (Context.nested ⟨⟨2, 1⟩, 0⟩ ⟨1, 1⟩).depth ≤ o.maxDepth := hroom
      refine evaluateIn_of_number hdepth ?_
      rw [hops]
      exact evaluateStep_product _ _ _
    exact evaluateIn_of_number (Nat.zero_le _) (hone.evaluateStep_eq (answer_single hnested))

/-- Without `try`, a value may change with the depth and with the limit on levels: `dedup` goes on where the range
cannot be evaluated. -/
theorem not_always_cutOff :
    lacks [] (toScript counting) = true ∧ lacks [] (toScript "2*3") = true ∧
      evaluateIn (Grid.single "2*3") .default ⟨⟨2, 1⟩, 10⟩ counting = .ok (.number (Decimal.ofInt 2)) ∧
      evaluate (Grid.single "2*3") ⟨0, 1000, 1000000, "INVALID"⟩ ⟨2, 1⟩ counting = .ok (.number (Decimal.ofInt 2)) ∧
      evaluate (Grid.single "2*3") .default ⟨2, 1⟩ counting = .ok (.number (Decimal.ofInt 1)) ∧
      evaluate (Grid.single "2*3") .default ⟨2, 1⟩ counting ≠ .ok (.number (Decimal.ofInt 2)) := by
  obtain ⟨htext, hproduct, -, -⟩ := counting_read
  obtain ⟨hdeep, hroot⟩ := evaluateIn_counting (o := .default) rfl
  have hone := hroot (by decide)
  have hshallow := (evaluateIn_counting (o := ⟨0, 1000, 1000000, "INVALID"⟩) rfl).1
  refine ⟨htext, hproduct, hdeep, hshallow, hone, fun htwo => ?_⟩
  exact absurd (congrArg (isNumber (Decimal.ofInt 1)) (hone.symm.trans htwo)) (by decide +kernel)

end Worksheet
