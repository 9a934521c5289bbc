import Mathlib.Data.Prod.Lex
import Worksheet.Proofs.Evaluation.Chains
import Worksheet.Proofs.Evaluation.FormulaCells
import Worksheet.Proofs.Evaluation.RangeCalls
import Worksheet.Proofs.Script.Questions

/-!
# How evaluations nest

An evaluation takes steps, each step runs one script, and a range that the script asks for starts further
evaluations. The evaluator is written once more, for steps and nested evaluations with effects; where these are
records, it keeps what was done in an evaluation. The evaluations that are started, directly or not, make up a tree.

* `Script.Dialogue.runIn`, `answerIn`, `evaluateStepIn`, `evaluationIn` : the evaluator with effects;
* `Request`, `Step`, `traceStep`, `trace` : the steps of an evaluation, and the evaluations that each starts;
* `traceStep_spec`, `trace_eq` : what is recorded, and that recording changes no result;
* `Grid.Starts`, `Spawns`, `Descends` : from an evaluation to those that it starts, and from one step to the next that
  is taken;
* `descends_measure` : the levels and the formulas that are left decrease with each step;
* `evaluate_descends` : the whole tree.
-/

namespace Worksheet

open Script Formula

/-! ## Evaluation with effects -/

section

variable {m : Type → Type} [Monad m]

/-- The result of a dialogue whose questions are answered with effects. -/
def Script.Dialogue.runIn {α : Type} (answer : Lookup → m Reply) : Dialogue α → m α
  | .done a => pure a
  | .ask q next => do (next (← answer q)).runIn answer

/-- The answer to a lookup. The evaluation of a formula is told the lookup that it is for, and has effects. -/
def answerIn (g : Grid) (nested : Lookup → Context → String → m Result) (ctx : Context) (q : Lookup) : m Reply :=
  match q with
  | .cell column row =>
    return (resolveCell g (CellRef.toCoord ⟨column, row⟩) ctx).map fun raw => (CellValue.ofRaw raw).toScript
  | .range column₁ row₁ column₂ row₂ => do
    let rows ← (resolveRange g (CellRef.toCoord ⟨column₁, row₁⟩) (CellRef.toCoord ⟨column₂, row₂⟩) ctx (nested q)).run
    return rows.map fun rows => .array (rows.map fun row => .array (row.map CellValue.inRange))
  | .negative => return .error .ref

def evaluateStepIn [Engine] (g : Grid) (limit : Nat) (nested : Lookup → Context → String → m Result)
    (ctx : Context) (formula : String) : m Result := do
  let v ← (dialogue limit (toScript formula)).runIn (answerIn g nested ctx)
  return v.bind Value.toCell

def evaluationIn (o : Options) (step : Context → String → m Result) (ctx : Context) (formula : String) : m Result :=
  if o.maxDepth < ctx.depth then return .error .recursionLimit else followChainIn step ctx o.maxChain formula

end

theorem runIn_id {α : Type} (answer : Lookup → Reply) (d : Dialogue α) : d.runIn (m := Id) answer = d.run answer := by
  induction d with
  | done a => rfl
  | ask q next ih => exact ih (answer q)

theorem answerIn_id (g : Grid) (nested : Context → String → Result) (ctx : Context) :
    answerIn (m := Id) g (fun _ => nested) ctx = answer g nested ctx := by
  funext q
  cases q <;> rfl

/-- Without effects this is the evaluator. -/
theorem evaluationIn_id [Engine] (g : Grid) (o : Options) (ctx : Context) (formula : String) :
    evaluationIn (m := Id) o (evaluateStepIn (m := Id) g o.maxOperations fun _ => evaluateIn g o) ctx formula =
      evaluateIn g o ctx formula := by
  have hstep : evaluateStepIn (m := Id) g o.maxOperations (fun _ => evaluateIn g o) =
      evaluateStep g o.maxOperations (evaluateIn g o) := by
    funext ctx formula
    rw [evaluateStepIn, evaluateStep_eq_bind, answerIn_id]
    generalize dialogue o.maxOperations (toScript formula) = d
    rw [runIn_id]
    rfl
  rw [evaluationIn, hstep, followChainIn_id]
  by_cases h : o.maxDepth < ctx.depth
  · rw [if_pos h, evaluateIn_of_lt g h]
    rfl
  · rw [if_neg h, evaluateIn_eq g (Nat.not_lt.mp h)]

/-! ## Records -/

structure Request where
  question : Lookup
  visit : Visit

/-- A step that was taken, and the evaluations that it started, in order. -/
structure Step where
  visit : Visit
  requests : List Request

def requesting (nested : Context → String → Result) (q : Lookup) (ctx : Context) (formula : String) :
    StateM (List Request) Result := do
  modify (· ++ [⟨q, ctx, formula, nested ctx formula⟩])
  return nested ctx formula

def traceStep [Engine] (g : Grid) (o : Options) (ctx : Context) (formula : String) : Result × List Request :=
  (evaluateStepIn g o.maxOperations (requesting (evaluateIn g o)) ctx formula).run []

def tracing [Engine] (g : Grid) (o : Options) (ctx : Context) (formula : String) : StateM (List Step) Result := do
  let (result, requests) := traceStep g o ctx formula
  modify (· ++ [⟨⟨ctx, formula, result⟩, requests⟩])
  return result

/-- What an evaluation answers, and its steps. -/
def trace [Engine] (g : Grid) (o : Options) (ctx : Context) (formula : String) : Result × List Step :=
  (evaluationIn o (tracing g o) ctx formula).run []

/-! ## Recording changes no result -/

/-- Whether a computation with a state answers what another one does, from whatever state on. -/
def Erases {σ α : Type} (p : ExceptT ErrorCode (StateM σ) α) (q : ExceptT ErrorCode Id α) : Prop :=
  ∀ s, (p.run.run s).1 = q.run

section

variable {σ α β ι : Type}

theorem Erases.bind {p : ExceptT ErrorCode (StateM σ) α} {q : ExceptT ErrorCode Id α}
    {f : α → ExceptT ErrorCode (StateM σ) β} {k : α → ExceptT ErrorCode Id β} (hp : Erases p q)
    (hf : ∀ a, Erases (f a) (k a)) : Erases (p >>= f) (q >>= k) := by
  intro s
  have hfirst := hp s
  rcases hrun : p.run.run s with ⟨c | a, s'⟩
  · rw [run_bind_error hrun, ExceptT.run_bind, ← hfirst, hrun]
    rfl
  · rw [run_bind_ok hrun, ExceptT.run_bind, ← hfirst, hrun]
    exact hf a s'

theorem Erases.mapM {f : ι → ExceptT ErrorCode (StateM σ) β} {k : ι → ExceptT ErrorCode Id β} {xs : List ι}
    (h : ∀ x ∈ xs, Erases (f x) (k x)) : Erases (xs.mapM f) (xs.mapM k) := by
  induction xs with
  | nil => exact fun _ => rfl
  | cons x xs ih =>
    rw [List.mapM_cons, List.mapM_cons]
    refine (h x List.mem_cons_self).bind fun y => (ih fun x hx => h x (List.mem_cons_of_mem _ hx)).bind fun ys => ?_
    exact fun _ => rfl

end

section

variable {σ : Type} {g : Grid} {ctx : Context} {nested : Context → String → Result}
  {evaluate : Context → String → StateM σ Result}
  (h : ∀ ctx formula s, ((evaluate ctx formula).run s).1 = nested ctx formula)
include h

theorem erases_rangeCell (d : Coord) : Erases (rangeCell g ctx evaluate d) (rangeCell g ctx nested d) := by
  unfold rangeCell
  cases formula? (g.get d) with
  | none => exact fun _ => rfl
  | some formula => exact h _ _

theorem erases_resolveRange (a b : Coord) :
    Erases (resolveRange g a b ctx evaluate) (resolveRange g a b ctx nested) := by
  unfold resolveRange
  cases Rectangle.ofCorners? g.extent a b with
  | none => exact fun _ => rfl
  | some r =>
    refine Erases.mapM fun y _ => ?_
    rw [rangeRow_eq, rangeRow_eq]
    exact Erases.mapM fun d _ => erases_rangeCell h d

end

/-! ## What a step starts -/

/-- Whether an evaluation is started by a range, for a formula cell that lies in the sheet: for that cell itself, one
level deeper. -/
structure Grid.Starts (g : Grid) (nested : Context → String → Result) (ctx : Context) (r : Request) : Prop where
  range : ∃ column₁ row₁ column₂ row₂, r.question = .range column₁ row₁ column₂ row₂
  cell : ∃ d, g.Reaches r.question d ∧ g.extent.contains d = true ∧ formula? (g.get d) = some r.visit.formula ∧
    r.visit.context = ⟨d, ctx.depth + 1⟩
  result : r.visit.result = nested r.visit.context r.visit.formula

section

variable {g : Grid} {nested : Context → String → Result} {ctx : Context}

theorem visits_requesting {q : Lookup} {record record' : List Request} {visits : List Visit}
    (h : Visits (requesting nested q) record visits record') :
    record' = record ++ visits.map (⟨q, ·⟩) ∧ ∀ v ∈ visits, v.result = nested v.context v.formula := by
  induction h with
  | nil record => exact ⟨(List.append_nil record).symm, by simp⟩
  | @cons record record₁ record₂ v visits hv _ ih =>
    have hstep : (nested v.context v.formula, record ++ [⟨q, v.context, v.formula, nested v.context v.formula⟩]) =
        (v.result, record₁) := hv
    obtain ⟨hresult, rfl⟩ := Prod.mk.inj hstep
    obtain ⟨rfl, hresults⟩ := ih
    refine ⟨?_, List.forall_mem_cons.mpr ⟨hresult.symm, hresults⟩⟩
    rw [List.append_assoc, hresult]
    rfl

theorem exists_cell_of_mem_callsBetween {a b : Coord} {call : Context × String} (h : call ∈ g.callsBetween ctx a b) :
    ∃ d, g.extent.Clips a b d ∧ formula? (g.get d) = some call.2 ∧ call.1 = ctx.nested d := by
  obtain ⟨d, hd, hcall⟩ := List.mem_filterMap.mp h
  obtain ⟨formula, hformula, rfl⟩ := Option.map_eq_some_iff.mp hcall
  exact ⟨d, ((g.mem_formulaCells a b d).mp hd).1, hformula, rfl⟩

theorem run_resolveRange_requesting (q : Lookup) (a b : Coord) (s : List Request) :
    ∃ visits : List Visit,
      (resolveRange g a b ctx (requesting nested q)).run.run s =
        ((resolveRange (m := Id) g a b ctx nested).run, s ++ visits.map (⟨q, ·⟩)) ∧
      (∀ v ∈ visits, ∃ d, g.extent.Clips a b d ∧ formula? (g.get d) = some v.formula ∧ v.context = ctx.nested d) ∧
      ∀ v ∈ visits, v.result = nested v.context v.formula := by
  have hsame : Erases (resolveRange g a b ctx (requesting nested q)) (resolveRange g a b ctx nested) :=
    erases_resolveRange (fun _ _ _ => rfl) a b
  have hmakes : Makes (requesting nested q) _ _ (resolveRange g a b ctx (requesting nested q)) _ :=
    makes_resolveRange g ctx a b
  obtain ⟨rows, visits, s', hrun, -, hvisits, hends⟩ := hmakes s []
  have hcalls := (g.rangeRun_of_ends ctx hends).calls
  obtain ⟨rfl, hresults⟩ := visits_requesting hvisits
  have hrows := hsame s
  rw [hrun] at hrows
  refine ⟨visits, ?_, fun v hv => ?_, hresults⟩
  · rw [hrun, ← hrows]
  · have hcall : v.call ∈ visits.map Visit.call := List.mem_map.mpr ⟨v, hv, rfl⟩
    exact exists_cell_of_mem_callsBetween (hcalls.subset hcall)

theorem run_answerIn (g : Grid) (nested : Context → String → Result) (ctx : Context) (q : Lookup) (s : List Request) :
    ∃ requests, (answerIn g (requesting nested) ctx q).run s = (answer g nested ctx q, s ++ requests) ∧
      ∀ r ∈ requests, r.question = q ∧ g.Starts nested ctx r := by
  cases q with
  | cell column row => exact ⟨[], congrArg (Prod.mk _) (List.append_nil s).symm, by simp⟩
  | negative => exact ⟨[], congrArg (Prod.mk _) (List.append_nil s).symm, by simp⟩
  | range column₁ row₁ column₂ row₂ =>
    obtain ⟨visits, hrun, hcells, hresults⟩ := run_resolveRange_requesting (g := g) (.range column₁ row₁ column₂ row₂)
      (CellRef.toCoord ⟨column₁, row₁⟩) (CellRef.toCoord ⟨column₂, row₂⟩) s
    refine ⟨visits.map (⟨.range column₁ row₁ column₂ row₂, ·⟩), ?_, fun r hr => ?_⟩
    · rw [answerIn, StateT.run_bind, hrun]
      rfl
    · obtain ⟨v, hv, rfl⟩ := List.mem_map.mp hr
      obtain ⟨d, hclips, hformula, hcontext⟩ := hcells v hv
      exact ⟨rfl, ⟨column₁, row₁, column₂, row₂, rfl⟩, ⟨d, hclips, hclips.inside, hformula, hcontext⟩, hresults v hv⟩

theorem run_runIn {ρ α : Type} {answerM : Lookup → StateM (List ρ) Reply} {answer : Lookup → Reply}
    {P : Lookup → ρ → Prop}
    (h : ∀ q s, ∃ log, (answerM q).run s = (answer q, s ++ log) ∧ ∀ r ∈ log, P q r) (d : Dialogue α) (s : List ρ) :
    ∃ log, (d.runIn answerM).run s = (d.run answer, s ++ log) ∧ ∀ r ∈ log, ∃ q ∈ d.asked answer, P q r := by
  induction d generalizing s with
  | done a => exact ⟨[], congrArg (Prod.mk a) (List.append_nil s).symm, by simp⟩
  | ask q next ih =>
    obtain ⟨first, hfirst, hP⟩ := h q s
    obtain ⟨rest, hrest, hasked⟩ := ih (answer q) (s ++ first)
    refine ⟨first ++ rest, ?_, fun r hr => ?_⟩
    · rw [Dialogue.runIn, StateT.run_bind, hfirst, ← List.append_assoc]
      exact hrest
    · rcases List.mem_append.mp hr with hr | hr
      · exact ⟨q, List.mem_cons_self, hP r hr⟩
      · obtain ⟨p, hp, hr⟩ := hasked r hr
        exact ⟨p, List.mem_cons_of_mem _ hp, hr⟩

end

/-- A step answers what it does without a record. The evaluations that it starts are for formula cells in ranges that
its script asks for. -/
theorem traceStep_spec [Engine] (g : Grid) (o : Options) (ctx : Context) (formula : String) :
    (traceStep g o ctx formula).1 = evaluateStep g o.maxOperations (evaluateIn g o) ctx formula ∧
      ∀ r ∈ (traceStep g o ctx formula).2,
        r.question ∈ (dialogue o.maxOperations (toScript formula)).asked (answer g (evaluateIn g o) ctx) ∧
          g.Starts (evaluateIn g o) ctx r := by
  obtain ⟨log, hrun, hlog⟩ := run_runIn (run_answerIn g (evaluateIn g o) ctx)
    (dialogue o.maxOperations (toScript formula)) []
  have htrace : traceStep g o ctx formula =
      (evaluateStep g o.maxOperations (evaluateIn g o) ctx formula, log) := by
    rw [traceStep, evaluateStepIn, StateT.run_bind, hrun, evaluateStep_eq_bind]
    rfl
  rw [htrace]
  refine ⟨rfl, fun r hr => ?_⟩
  obtain ⟨q, hq, rfl, hstarts⟩ := hlog r hr
  exact ⟨hq, hstarts⟩

/-! ## The steps of an evaluation -/

def stepOf [Engine] (g : Grid) (o : Options) (v : Visit) : Step :=
  ⟨v, (traceStep g o v.context v.formula).2⟩

theorem tracing_eq [Engine] (g : Grid) (o : Options) :
    tracing g o =
      telling (fun v => modify (· ++ [stepOf g o v])) (evaluateStep g o.maxOperations (evaluateIn g o)) := by
  funext ctx formula
  have hresult := (traceStep_spec g o ctx formula).1
  unfold tracing telling stepOf
  dsimp only
  rw [hresult]

theorem run_forM_append {α β : Type} (f : α → β) (xs : List α) (s : List β) :
    (xs.forM fun x => modify (· ++ [f x]) : StateM (List β) Unit).run s = ((), s ++ xs.map f) := by
  induction xs generalizing s with
  | nil => exact congrArg (Prod.mk ()) (List.append_nil s).symm
  | cons x xs ih =>
    rw [List.map_cons, List.append_cons]
    exact ih (s ++ [f x])

/-- Up to the deepest level an evaluation takes the steps of a chain, past it none. -/
theorem trace_eq [Engine] (g : Grid) (o : Options) (ctx : Context) (formula : String) :
    trace g o ctx formula = (evaluateIn g o ctx formula,
      if o.maxDepth < ctx.depth then []
      else
        (chainVisits (evaluateStep g o.maxOperations (evaluateIn g o)) ctx o.maxChain formula).map (stepOf g o)) := by
  unfold trace evaluationIn
  by_cases h : o.maxDepth < ctx.depth
  · rw [if_pos h, if_pos h, evaluateIn_of_lt g h]
    rfl
  · rw [if_neg h, if_neg h, tracing_eq, followChainIn_telling, StateT.run_bind, run_forM_append, List.nil_append,
      evaluateIn_eq g (Nat.not_lt.mp h)]
    generalize evaluateStep g o.maxOperations (evaluateIn g o) = step
    rfl

theorem length_chainVisits_le {step : Context → String → Result} {ctx : Context} (more : Nat) (first : String) :
    (chainVisits step ctx more first).length ≤ more + 1 := by
  rw [← List.getElem?_eq_none_iff, getElem?_chainVisits, if_neg (Nat.not_succ_le_self more)]

section

variable [Engine] {g : Grid} {o : Options} {ctx : Context} {formula : String}

theorem trace_of_lt (h : o.maxDepth < ctx.depth) : trace g o ctx formula = (.error .recursionLimit, []) := by
  rw [trace_eq, if_pos h, evaluateIn_of_lt g h]

theorem length_trace_le : (trace g o ctx formula).2.length ≤ o.maxChain + 1 := by
  rw [trace_eq]
  dsimp only
  split
  · exact Nat.zero_le _
  · rw [List.length_map]
    exact length_chainVisits_le _ _

theorem step_of_mem_trace {s : Step} (h : s ∈ (trace g o ctx formula).2) :
    s.visit.context = ctx ∧ ctx.depth ≤ o.maxDepth ∧ s.requests = (traceStep g o ctx s.visit.formula).2 := by
  rw [trace_eq] at h
  dsimp only at h
  split at h
  · exact absurd h List.not_mem_nil
  · rename_i hdepth
    obtain ⟨v, hv, rfl⟩ := List.mem_map.mp h
    obtain ⟨i, hi⟩ := List.mem_iff_getElem?.mp hv
    rw [getElem?_chainVisits] at hi
    obtain ⟨next, -, rfl⟩ := Option.map_eq_some_iff.mp (Option.ite_none_right_eq_some.mp hi).2
    dsimp only [stepOf]
    exact ⟨rfl, Nat.not_lt.mp hdepth, rfl⟩

theorem starts_of_mem_trace {s : Step} (h : s ∈ (trace g o ctx formula).2) :
    ∀ r ∈ s.requests,
      r.question ∈ (dialogue o.maxOperations (toScript s.visit.formula)).asked (answer g (evaluateIn g o) ctx) ∧
        g.Starts (evaluateIn g o) ctx r := by
  rw [(step_of_mem_trace h).2.2]
  exact (traceStep_spec g o ctx s.visit.formula).2

end

/-! ## The tree of evaluations -/

/-- The evaluations that a step starts, each with its context and its formula. -/
def Step.started (s : Step) : List (Context × String) :=
  s.requests.map fun r => r.visit.call

/-- From an evaluation to one that is started in one of its steps. -/
def Spawns [Engine] (g : Grid) (o : Options) (e e' : Context × String) : Prop :=
  ∃ s ∈ (trace g o e.1 e.2).2, e' ∈ s.started

/-- A step of an evaluation, where the first one has number zero. -/
structure Moment where
  evaluation : Context × String
  number : Nat

def Moment.step? [Engine] (g : Grid) (o : Options) (t : Moment) : Option Step :=
  (trace g o t.evaluation.1 t.evaluation.2).2[t.number]?

/-- From a step to the next one of its evaluation, and to the first one of each evaluation that it starts. -/
inductive Descends [Engine] (g : Grid) (o : Options) : Moment → Moment → Prop
  | next {e : Context × String} {n : Nat} {s : Step} (h : Moment.step? g o ⟨e, n + 1⟩ = some s) :
      Descends g o ⟨e, n⟩ ⟨e, n + 1⟩
  | nested {e e' : Context × String} {n : Nat} {s s' : Step} (h : Moment.step? g o ⟨e, n⟩ = some s)
      (hstarted : e' ∈ s.started) (h' : Moment.step? g o ⟨e', 0⟩ = some s') : Descends g o ⟨e, n⟩ ⟨e', 0⟩

/-- The levels that are left, then the formulas that are left at this level. -/
def Moment.left (o : Options) (t : Moment) : Nat ×ₗ Nat :=
  toLex (o.maxDepth - t.evaluation.1.depth, o.maxChain - t.number)

section

variable [Engine] {g : Grid} {o : Options}

theorem depth_of_started {e e' : Context × String} {s : Step} (hs : s ∈ (trace g o e.1 e.2).2) (h : e' ∈ s.started) :
    e'.1.depth = e.1.depth + 1 := by
  obtain ⟨r, hr, rfl⟩ := List.mem_map.mp h
  obtain ⟨d, -, -, -, hcontext⟩ := (starts_of_mem_trace hs r hr).2.cell
  rw [Visit.call, hcontext]

theorem depth_le_of_spawns {e e' : Context × String} (h : Spawns g o e e') : e'.1.depth ≤ o.maxDepth + 1 := by
  obtain ⟨s, hs, hstarted⟩ := h
  have hdepth := (step_of_mem_trace hs).2.1
  rw [depth_of_started hs hstarted]
  omega

theorem descends_measure {t t' : Moment} (h : Descends g o t t') : t'.left o < t.left o := by
  unfold Moment.left
  rw [Prod.Lex.toLex_lt_toLex]
  cases h with
  | @next e n s h =>
    have hnumber := (List.getElem?_eq_some_iff.mp h).1
    have hlength : (trace g o e.1 e.2).2.length ≤ o.maxChain + 1 := length_trace_le
    dsimp only at hnumber ⊢
    omega
  | @nested e e' n s s' h hstarted h' =>
    have hdepth := depth_of_started (List.mem_of_getElem? h) hstarted
    have hlevel := (step_of_mem_trace (List.mem_of_getElem? h')).2.1
    dsimp only at hdepth hlevel ⊢
    omega

theorem wellFounded_descends (g : Grid) (o : Options) : WellFounded fun t' t => Descends g o t t' :=
  Subrelation.wf (fun h => descends_measure h) (InvImage.wf (Moment.left o) wellFounded_lt)

end

/-- With any engine: the evaluations that one leads to, which are those of the evaluator that keeps a record; without
effects it is the evaluator itself. Each is started by a range in a step of another one, for a formula cell of the sheet
and one level deeper. Past the deepest level none takes a step, and none takes more steps than the limit on formulas and
one more. From step to step, in the same evaluation or into one that is started, the levels that are left or, at the
same level, the formulas that are left decrease. -/
theorem evaluate_descends [Engine] (g : Grid) (o : Options) (c : Coord) (formula : String) :
    (∀ ctx next,
      evaluationIn (m := Id) o (evaluateStepIn (m := Id) g o.maxOperations fun _ => evaluateIn g o) ctx next =
        evaluateIn g o ctx next) ∧
    evaluate g o c formula = (trace g o (.root c) formula).1 ∧
    (∀ e, Relation.ReflTransGen (Spawns g o) (.root c, formula) e →
      e.1.depth ≤ o.maxDepth + 1 ∧
      (trace g o e.1 e.2).1 = evaluateIn g o e.1 e.2 ∧
      (o.maxDepth < e.1.depth → trace g o e.1 e.2 = (.error .recursionLimit, [])) ∧
      (trace g o e.1 e.2).2.length ≤ o.maxChain + 1 ∧
      ∀ s ∈ (trace g o e.1 e.2).2, s.visit.context = e.1 ∧ e.1.depth ≤ o.maxDepth ∧
        ∀ r ∈ s.requests,
          r.question ∈ (dialogue o.maxOperations (toScript s.visit.formula)).asked (answer g (evaluateIn g o) e.1) ∧
            g.Starts (evaluateIn g o) e.1 r) ∧
    (∀ t t', Descends g o t t' → t'.left o < t.left o) ∧
    WellFounded fun t' t => Descends g o t t' := by
  have hresult : ∀ ctx formula, (trace g o ctx formula).1 = evaluateIn g o ctx formula := fun ctx formula => by
    rw [trace_eq]
  refine ⟨evaluationIn_id g o, (hresult _ _).symm,
    fun e he => ⟨?_, hresult _ _, trace_of_lt, length_trace_le, fun s hs => ?_⟩, fun t t' => descends_measure,
    wellFounded_descends g o⟩
  · cases he with
    | refl => exact Nat.zero_le _
    | tail _ hlast => exact depth_le_of_spawns hlast
  · obtain ⟨hcontext, hdepth, -⟩ := step_of_mem_trace hs
    exact ⟨hcontext, hdepth, starts_of_mem_trace hs⟩

def Grid.ownSum : Grid :=
  Grid.single "SUM(A1:A1)"

def ownSumAt (depth : Nat) : Context × String :=
  (⟨⟨1, 1⟩, depth⟩, "SUM(A1:A1)")

def Options.shallow : Options :=
  { Options.default with maxDepth := 1 }

theorem step?_of_map_started (e : Context × String) (started : List (Context × String))
    (h : (trace Grid.ownSum Options.shallow e.1 e.2).2.map Step.started = [started]) :
    ∃ s, Moment.step? Grid.ownSum Options.shallow ⟨e, 0⟩ = some s ∧ s.started = started := by
  obtain ⟨s, hs, hstarted⟩ := List.map_eq_singleton_iff.mp h
  exact ⟨s, by rw [Moment.step?, hs]; rfl, hstarted⟩

/-- The sum starts itself one level deeper, once more past the deepest level, and there it fails at once. -/
theorem evaluate_descends_ownSum :
    Spawns Grid.ownSum Options.shallow (ownSumAt 0) (ownSumAt 1) ∧
      Spawns Grid.ownSum Options.shallow (ownSumAt 1) (ownSumAt 2) ∧
      Options.shallow.maxDepth < (ownSumAt 2).1.depth ∧
      trace Grid.ownSum Options.shallow (ownSumAt 2).1 (ownSumAt 2).2 = (.error .recursionLimit, []) ∧
      Descends Grid.ownSum Options.shallow ⟨ownSumAt 0, 0⟩ ⟨ownSumAt 1, 0⟩ ∧
      Moment.left Options.shallow ⟨ownSumAt 1, 0⟩ < Moment.left Options.shallow ⟨ownSumAt 0, 0⟩ := by
  obtain ⟨s, hs, hfirst⟩ := step?_of_map_started (ownSumAt 0) [ownSumAt 1] (by decide +kernel)
  obtain ⟨s', hs', hsecond⟩ := step?_of_map_started (ownSumAt 1) [ownSumAt 2] (by decide +kernel)
  have hstarted : ownSumAt 1 ∈ s.started := by rw [hfirst]; exact List.mem_cons_self
  have hspawns : Spawns Grid.ownSum Options.shallow (ownSumAt 0) (ownSumAt 1) :=
    ⟨s, List.mem_of_getElem? hs, hstarted⟩
  have hdeeper : Spawns Grid.ownSum Options.shallow (ownSumAt 1) (ownSumAt 2) :=
    ⟨s', List.mem_of_getElem? hs', by rw [hsecond]; exact List.mem_cons_self⟩
  have hdepth : Options.shallow.maxDepth < (ownSumAt 2).1.depth := by decide
  obtain ⟨-, -, htree, hmeasure, -⟩ := evaluate_descends Grid.ownSum Options.shallow ⟨1, 1⟩ "SUM(A1:A1)"
  have hdescends := Descends.nested hs hstarted hs'
  exact ⟨hspawns, hdeeper, hdepth, (htree _ (.head hspawns (.single hdeeper))).2.2.1 hdepth, hdescends,
    hmeasure _ _ hdescends⟩

end Worksheet
