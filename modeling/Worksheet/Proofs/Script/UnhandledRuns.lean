import Worksheet.Proofs.Script.Keywords
import Worksheet.Proofs.Script.Unwinding
import Worksheet.Script.Interpreter

/-!
# Runs of the interpreter without handlers

Of all that a tree is run by, only the handler of a `try` and a call of `dedup` take hold of a fault. So the interpreter
is an engine in which nothing else handles faults.

* `Run.Unwinds` : a run without handlers, seen without the state that a fault leaves behind; one law for each part of
  a run but handlers;
* `Expr.unwinds_value`, `Stmt.unwinds_run` : trees without handlers run so;
* `unwinds_callAt` : and so do calls of functions without handlers;
* `interpreter_onlyHandlersHandle` : the engine that the interpreter is.
-/

namespace Worksheet.Script

/-! ## Runs -/

namespace Run

variable {α β : Type}

/-- How a part of a run ends, without the state that its fault leaves behind. -/
def settled : Except Stop α × State → Except Fault (Except Stop α × State)
  | (.error (.fault f), _) => .error f
  | r => .ok r

def Unwinds (m : Run α) : Prop :=
  ∀ s, Unhandled ((m s).map settled)

/-- A run and what is done with its end, where faults are left as they are. -/
theorem Unwinds.andThen {m : Run α} (hm : m.Unwinds) {next : Except Stop α × State → Dialogue (Except Stop β × State)}
    (hnext : ∀ r, Unhandled ((next r).map settled))
    (hfault : ∀ f t, (next (.error (.fault f), t)).map settled = .done (.error f)) (s : State) :
    Unhandled (((m s).bind next).map settled) := by
  have hparts : ((m s).bind next).map settled = ((m s).map settled).andThen fun r => (next r).map settled := by
    rw [Dialogue.map, Dialogue.map, Dialogue.andThen, Dialogue.bind_assoc, Dialogue.bind_assoc]
    refine congrArg (m s).bind (funext fun r => ?_)
    obtain ⟨r, t⟩ := r
    cases r with
    | ok a => rfl
    | error e =>
      cases e with
      | fault f => exact hfault f t
      | _ => rfl
  rw [hparts]
  exact .andThen (hm s) hnext

theorem Unwinds.of_done {m : Run α} (h : ∀ s, ∃ r, m s = .done r) : m.Unwinds := by
  intro s
  obtain ⟨r, hr⟩ := h s
  rw [hr]
  exact .done _

theorem Unwinds.pure (a : α) : (Pure.pure a : Run α).Unwinds := .of_done fun _ => ⟨_, rfl⟩

theorem Unwinds.bind {m : Run α} {f : α → Run β} (hm : m.Unwinds) (hf : ∀ a, (f a).Unwinds) : (m >>= f).Unwinds := by
  refine hm.andThen (fun r => ?_) fun _ _ => rfl
  obtain ⟨r, t⟩ := r
  cases r with
  | ok a => exact hf a t
  | error e => exact .done _

theorem Unwinds.stop (e : Stop) : (Run.stop e : Run α).Unwinds := .of_done fun _ => ⟨_, rfl⟩

theorem Unwinds.fail (f : Fault) : (Run.fail f : Run α).Unwinds := .stop _

theorem Unwinds.ofExcept (r : Except Fault α) : (Run.ofExcept r).Unwinds := by
  cases r with
  | ok a => exact .pure a
  | error f => exact .fail f

theorem Unwinds.tick : Run.tick.Unwinds := by
  refine .of_done fun s => ?_
  unfold Run.tick
  split
  · exact ⟨_, rfl⟩
  · exact ⟨_, rfl⟩

theorem Unwinds.ticked {m : Run α} (hm : m.Unwinds) : (Run.ticked m).Unwinds :=
  .bind .tick fun _ => hm

theorem Unwinds.ask (q : Lookup) : (Run.ask q).Unwinds := by
  intro s
  have hlookup : (Run.ask q s).map settled = (Dialogue.lookup q).andThen fun v => .done (.ok (.ok v, s)) := by
    show Dialogue.ask q _ = Dialogue.ask q _
    refine congrArg (Dialogue.ask q) (funext fun r => ?_)
    cases r <;> rfl
  rw [hlookup]
  exact .andThen (.lookup q) fun _ => .done _

theorem Unwinds.lookUp (name : String) : (Run.lookUp name).Unwinds := by
  refine .of_done fun s => ?_
  unfold Run.lookUp
  split
  · exact ⟨_, rfl⟩
  · exact ⟨_, rfl⟩

theorem Unwinds.define (name : String) (constant : Bool) (v : Value) : (Run.define name constant v).Unwinds :=
  .of_done fun _ => ⟨_, rfl⟩

theorem Unwinds.store (name : String) (v : Value) : (Run.store name v).Unwinds := .of_done fun _ => ⟨_, rfl⟩

theorem Unwinds.target (name : String) : (Run.target name).Unwinds := by
  refine .of_done fun s => ?_
  unfold Run.target
  split
  · split
    · exact ⟨_, rfl⟩
    · exact ⟨_, rfl⟩
  · exact ⟨_, rfl⟩

theorem Unwinds.enclosed {m : Run α} (hm : m.Unwinds) : (Run.enclosed m).Unwinds := by
  intro s
  refine hm.andThen (fun r => ?_) (fun _ _ => rfl) s
  exact .done _

theorem Unwinds.apart (scope : List Binding) {m : Run α} (hm : m.Unwinds) : (Run.apart scope m).Unwinds := by
  intro s
  refine hm.andThen (fun r => ?_) (fun _ _ => rfl) { s with scope := scope }
  exact .done _

theorem Unwinds.turn {body : Run Value} (hbody : body.Unwinds) : (Run.turn body).Unwinds := by
  refine hbody.andThen (fun r => ?_) fun _ _ => rfl
  obtain ⟨r, t⟩ := r
  split <;> exact .done _

theorem Unwinds.turns {body : Nat → Run (Option Value)} (hbody : ∀ i, (body i).Unwinds) (left i : Nat) :
    (Run.turns body left i).Unwinds := by
  induction left generalizing i with
  | zero => exact .of_done fun _ => ⟨_, rfl⟩
  | succ left ih =>
    intro s
    unfold Run.turns
    split
    · exact ih (i + 1) _
    · refine (hbody i).andThen (fun r => ?_) (fun _ _ => rfl) s
      split
      · exact ih (i + 1) _
      · exact .done _

theorem Unwinds.endless {body : Run (Option Value)} (hbody : body.Unwinds) : (Run.endless body).Unwinds := by
  intro s
  refine Unwinds.bind (Unwinds.turns (fun _ => hbody) _ _) (fun r => ?_) s
  cases r with
  | none => exact .fail _
  | some v => exact .pure v

theorem Unwinds.returned {m : Run Value} (hm : m.Unwinds) : (Run.returned m).Unwinds := by
  refine hm.andThen (fun r => ?_) fun _ _ => rfl
  obtain ⟨r, t⟩ := r
  split <;> exact .done _

theorem Unwinds.inCall (name : String) {m : Run α} (hm : m.Unwinds) : (Run.inCall name m).Unwinds := by
  intro s
  have hcall : (Run.inCall name m s).map settled =
      ((m s).map settled).map (Except.mapError (Fault.leaving name "")) := by
    rw [Run.inCall, Dialogue.map, Dialogue.map, Dialogue.map, Dialogue.bind_assoc, Dialogue.bind_assoc]
    refine congrArg (m s).bind (funext fun r => ?_)
    obtain ⟨r, t⟩ := r
    cases r with
    | ok a => rfl
    | error e => cases e <;> rfl
  rw [hcall]
  exact .inCall name "" (hm s)

end Run

/-! ## Calls -/

theorem unwinds_callNative (name : String) (arguments : List Value) : (callNative name arguments).Unwinds := by
  unfold callNative
  split
  · split <;> exact .ask _
  · split <;> exact .ask _
  · exact .ofExcept _

/-- Whether the functions that a running script can call only let faults out. -/
def Machine.Unwinds (m : Machine) : Prop :=
  ∀ name arity f, m.function? name arity = some f → ∀ v arguments, (m.enter f v arguments).Unwinds

section

variable {m : Machine} (hm : m.Unwinds)
include hm

theorem Machine.Unwinds.callOn (v : Value) (name : String) (arguments : List Value) :
    (m.callOn v name arguments).Unwinds := by
  unfold Machine.callOn
  split
  · next f hf => exact hm _ _ _ hf _ _
  · exact .ticked (unwinds_callNative _ _)

theorem Machine.Unwinds.call (name : String) (arguments : List Value) : (m.call name arguments).Unwinds := by
  unfold Machine.call
  split
  · next f hf => exact hm _ _ _ hf _ _
  · exact .ticked (unwinds_callNative _ _)

theorem unwinds_apply (v : Value) (move : Move) : (move.apply m v).Unwinds := by
  cases move with
  | index i => exact .ticked (.ofExcept _)
  | property p => exact .ticked (.ofExcept _)
  | method f arguments => exact hm.callOn v f arguments

theorem unwinds_follow (v : Value) (moves : List Move) : (follow m v moves).Unwinds := by
  induction moves generalizing v with
  | nil => exact .pure v
  | cons move moves ih => exact .bind (unwinds_apply hm v move) ih

theorem unwinds_updated (new : Value → Except Fault Value) (v : Value) (moves : List Move) :
    (updated m new v moves).Unwinds := by
  induction moves generalizing v with
  | nil => exact .ofExcept _
  | cons move moves ih =>
    cases move with
    | index i => exact .bind (.ofExcept _) fun old => .bind (ih old) fun w => .ofExcept _
    | property p => exact .bind (.ofExcept _) fun old => .bind (ih old) fun w => .ofExcept _
    | method f arguments => exact .bind (hm.callOn v f arguments) fun w => .bind (ih w) fun _ => .pure v

end

theorem dedupTarget?_of_isHandlerFree (base : Expr) {steps : List Step} (h : stepsAreHandlerFree steps = true) :
    dedupTarget? base steps = none := by
  unfold dedupTarget?
  split
  · cases h
  · rfl

theorem unwinds_truth (v : Value) : (truth v).Unwinds := by
  cases v with
  | bool b => exact .pure b
  | _ => exact .fail _

theorem Run.Unwinds.choice {α : Type} {condition : Run Value} {yes no : Run α} (hcondition : condition.Unwinds)
    (hyes : yes.Unwinds) (hno : no.Unwinds) : (do if ← truth (← condition) then yes else no).Unwinds := by
  refine .bind hcondition fun v => .bind (unwinds_truth v) fun b => ?_
  cases b with
  | false => exact hno
  | true => exact hyes

/-! ## Expressions and statements -/

variable {m : Machine}

mutual

theorem Expr.unwinds_value (hm : m.Unwinds) : ∀ {e : Expr}, e.isHandlerFree = true → (e.value m).Unwinds
  | .literal l, _ => .pure _
  | .name s, _ => .lookUp s
  | .this, _ => .pure _
  | .array es, h => .bind (unwinds_values hm h) fun _ => .pure _
  | .map keys es, h => .bind (unwinds_values hm h) fun _ => .pure _
  | .template es, h => .bind (unwinds_values hm h) fun _ => .pure _
  | .both a b, h => by
    rw [Expr.isHandlerFree, Bool.and_eq_true] at h
    exact .choice (.ticked (Expr.unwinds_value hm h.1))
      (.bind (.ticked (Expr.unwinds_value hm h.2)) fun v => .bind (unwinds_truth v) fun _ => .pure _) (.pure _)
  | .either a b, h => by
    rw [Expr.isHandlerFree, Bool.and_eq_true] at h
    exact .choice (.ticked (Expr.unwinds_value hm h.1)) (.pure _)
      (.bind (.ticked (Expr.unwinds_value hm h.2)) fun v => .bind (unwinds_truth v) fun _ => .pure _)
  | .coalesce a b, h => by
    rw [Expr.isHandlerFree, Bool.and_eq_true] at h
    refine .bind (.ticked (Expr.unwinds_value hm h.1)) fun v => ?_
    cases v with
    | unit => exact .ticked (Expr.unwinds_value hm h.2)
    | _ => exact .pure _
  | .unary op a, h => .bind (.ticked (Expr.unwinds_value hm h)) fun _ => .ofExcept _
  | .binary op a b, h => by
    rw [Expr.isHandlerFree, Bool.and_eq_true] at h
    exact .bind (.ticked (Expr.unwinds_value hm h.1)) fun _ =>
      .bind (.ticked (Expr.unwinds_value hm h.2)) fun _ => .ofExcept _
  | .within a b, h => by
    rw [Expr.isHandlerFree, Bool.and_eq_true] at h
    exact .bind (.ticked (Expr.unwinds_value hm h.1)) fun _ =>
      .bind (.ticked (Expr.unwinds_value hm h.2)) fun _ => .ofExcept _
  | .call f es, h => .bind (unwinds_values hm h) fun vs => hm.call f vs
  | .chain base steps, h => by
    rw [Expr.isHandlerFree, Bool.and_eq_true] at h
    rw [Expr.value, dedupTarget?_of_isHandlerFree base h.2]
    exact .bind (unwinds_moves hm h.2) fun _ =>
      .bind (.ticked (Expr.unwinds_value hm h.1)) fun v => unwinds_follow hm v _
  | .statement st, h => Stmt.unwinds_run hm h

theorem unwinds_values (hm : m.Unwinds) : ∀ {es : List Expr}, areHandlerFree es = true → (values m es).Unwinds
  | [], _ => .pure _
  | e :: es, h => by
    rw [areHandlerFree, Bool.and_eq_true] at h
    exact .bind (.ticked (Expr.unwinds_value hm h.1)) fun _ => .bind (unwinds_values hm h.2) fun _ => .pure _

theorem Step.unwinds_move (hm : m.Unwinds) : ∀ {st : Step}, st.isHandlerFree = true → (st.move m).Unwinds
  | .index _, h => .bind (.ticked (Expr.unwinds_value hm h)) fun _ => .pure _
  | .property _, _ => .pure _
  | .method _ _, h => by
    rw [Step.isHandlerFree, Bool.and_eq_true] at h
    exact .bind (unwinds_values hm h.2) fun _ => .pure _

theorem unwinds_moves (hm : m.Unwinds) : ∀ {sts : List Step}, stepsAreHandlerFree sts = true → (moves m sts).Unwinds
  | [], _ => .pure _
  | st :: sts, h => by
    rw [stepsAreHandlerFree, Bool.and_eq_true] at h
    exact .bind (Step.unwinds_move hm h.1) fun _ => .bind (unwinds_moves hm h.2) fun _ => .pure _

theorem Stmt.unwinds_run (hm : m.Unwinds) : ∀ {st : Stmt}, st.isHandlerFree = true → (st.run m).Unwinds
  | .skip, _ => .pure _
  | .expr e, h => by
    unfold Stmt.run
    split
    · exact Expr.unwinds_value hm h
    · exact .ticked (Expr.unwinds_value hm h)
  | .define v constant e, h =>
    .bind (.ticked (Expr.unwinds_value hm h)) fun _ => .bind (.define v constant _) fun _ => .pure _
  | .assign v path op e, h => by
    rw [Stmt.isHandlerFree, Bool.and_eq_true] at h
    exact .bind (.ticked (Expr.unwinds_value hm h.2)) fun _ => .bind (unwinds_moves hm h.1) fun _ =>
      .bind (.target v) fun old => .bind .tick fun _ => .bind (unwinds_updated hm _ old _) fun _ =>
        .bind (.store v _) fun _ => .pure _
  | .if_ c yes no, h => by
    simp only [Stmt.isHandlerFree, Bool.and_eq_true] at h
    exact .choice (.ticked (Expr.unwinds_value hm h.1.1)) (.enclosed (unwinds_runBody hm h.1.2))
      (.enclosed (unwinds_runBody hm h.2))
  | .while_ c body, h => by
    rw [Stmt.isHandlerFree, Bool.and_eq_true] at h
    exact .endless
      (.choice (.ticked (Expr.unwinds_value hm h.1)) (.turn (.enclosed (unwinds_runBody hm h.2))) (.pure _))
  | .loop body, h => .endless (.ticked (.turn (.enclosed (unwinds_runBody hm h))))
  | .for_ item counter iterable body, h => by
    rw [Stmt.isHandlerFree, Bool.and_eq_true] at h
    refine .bind (.ticked (Expr.unwinds_value hm h.1)) fun v => ?_
    cases itemsOf? v with
    | none => exact .fail _
    | some items =>
      refine .bind (.turns (fun i => .ticked (.turn (.enclosed ?_))) _ _) fun _ => .pure _
      cases counter with
      | none => exact .bind (.define item false _) fun _ => unwinds_runBody hm h.2
      | some name =>
        exact .bind (.define name false _) fun _ => .bind (.define item false _) fun _ => unwinds_runBody hm h.2
  | .break_ e, h => .bind (.ticked (Expr.unwinds_value hm h)) fun _ => .stop _
  | .continue_, _ => .stop _
  | .return_ e, h => .bind (.ticked (Expr.unwinds_value hm h)) fun _ => .stop _
  | .throw_ e, h => .bind (.ticked (Expr.unwinds_value hm h)) fun _ => .fail _
  | .try_ _ _ _, h => nomatch h
  | .block body, h => .enclosed (unwinds_runBody hm h)

theorem unwinds_runBody (hm : m.Unwinds) : ∀ {sts : List Stmt}, bodyIsHandlerFree sts = true → (runBody m sts).Unwinds
  | [], _ => .pure _
  | [st], h => by
    rw [bodyIsHandlerFree, Bool.and_eq_true] at h
    exact .ticked (Stmt.unwinds_run hm h.1)
  | st :: st' :: sts, h => by
    rw [bodyIsHandlerFree, Bool.and_eq_true] at h
    exact .bind (.ticked (Stmt.unwinds_run hm h.1)) fun _ => unwinds_runBody hm h.2

end

/-! ## Scripts -/

/-- Calls of functions without handlers, however deeply they are nested. -/
theorem unwinds_callAt {function? : String → Nat → Option Function}
    (hfree : ∀ name arity f, function? name arity = some f → bodyIsHandlerFree f.body = true) (levels : Nat)
    {f : Function} (hf : bodyIsHandlerFree f.body = true) (this : Value) (arguments : List Value) :
    (callAt function? levels f this arguments).Unwinds := by
  induction levels generalizing f this arguments with
  | zero => exact .ticked (.fail _)
  | succ levels ih =>
    have hmachine : (Machine.mk function? (callAt function? levels) this).Unwinds := fun name arity g hg =>
      ih (hfree name arity g hg)
    exact .ticked (.apart _ (.inCall _ (.returned (unwinds_runBody hmachine hf))))

theorem Program.bodyIsHandlerFree_of_function? {p : Program} (hp : p.isHandlerFree = true) (name : String)
    (arity : Nat) (f : Function) (hf : p.function? name arity = some f) : bodyIsHandlerFree f.body = true := by
  rw [Program.isHandlerFree, Bool.and_eq_true, List.all_eq_true] at hp
  exact hp.1 f (List.mem_of_find?_eq_some hf)

theorem Program.unwinds_run {p : Program} (hp : p.isHandlerFree = true) : p.run.Unwinds := by
  have hfree := Program.bodyIsHandlerFree_of_function? hp
  have hmachine : (Machine.mk p.function? (callAt p.function? callLimit) .unit).Unwinds := fun name arity f hf =>
    unwinds_callAt hfree callLimit (hfree name arity f hf)
  rw [Program.isHandlerFree, Bool.and_eq_true] at hp
  exact .returned (unwinds_runBody hmachine hp.2)

theorem Program.unhandled_dialogue {p : Program} (hp : p.isHandlerFree = true) (limit : Nat) :
    Unhandled (p.dialogue limit) := by
  have hparts : p.dialogue limit = ((p.run ⟨operationBound limit, []⟩).map Run.settled).andThen fun r =>
      .done (match r.1 with
        | .ok v => .ok v
        | .error _ => .error .other) := by
    rw [Program.dialogue, Dialogue.map, Dialogue.andThen, Dialogue.bind_assoc]
    refine congrArg _ (funext fun r => ?_)
    obtain ⟨r, t⟩ := r
    cases r with
    | ok v => rfl
    | error e => cases e <;> rfl
  rw [hparts]
  exact .andThen (Program.unwinds_run hp _) fun _ => .done _

theorem interpreter_onlyHandlersHandle : interpreter.OnlyHandlersHandle := by
  intro limit script hscript
  show Unhandled (interpret limit script)
  unfold interpret
  cases hp : Program.parse? script with
  | none => exact .done _
  | some p =>
    have hfree := isHandlerFree_of_parse? hscript hp
    exact Program.unhandled_dialogue (Program.isHandlerFree_simplify hfree) limit

end Worksheet.Script
