import Worksheet.Script.Interpreter
import Worksheet.Proofs.Script.Tokens

/-!
# Scripts that are one lookup, or one function of a lookup

* `Reference.lookup`, `Reference.call` : what the call of a reference asks for, and its tree;
* `ofTokens?_tokens`, `ofTokens?_aggregate` : scripts of a lookup are read as such trees;
* `value_call` : the value of the call is the reply to its lookup;
* `run_lookup` : the script of a lookup alone answers the reply;
* `run_aggregate` : the script of an aggregate computes it from the reply.
-/

namespace Worksheet.Formula.Reference

open Script

/-- The lookup that the call of a reference asks for. -/
def lookup : Reference → Lookup
  | .cell r => .cell r.column r.row
  | .range a b => .range a.column a.row b.column b.row

def argument (n : Nat) : Expr :=
  .literal (.int (Int64.ofInt n))

def call : Reference → Expr
  | .cell r => .call "CELL" [argument r.column, argument r.row]
  | .range a b => .call "RANGE" [argument a.column, argument a.row, argument b.column, argument b.row]

/-- The operations that the call of a reference takes. -/
def cost : Reference → Nat
  | .cell _ => 3
  | .range _ _ => 5

theorem cost_le (r : Reference) : r.cost ≤ 5 := by
  cases r <;> simp [cost]

end Worksheet.Formula.Reference

namespace Worksheet.Script

open Formula Lexer

/-! ## Trees -/

theorem ofTokens?_tokens (r : Reference) : Program.ofTokens? r.tokens = some ⟨[], [.expr r.call]⟩ := by
  cases r <;> rfl

theorem ofTokens?_aggregate (s : String) (r : Reference) :
    Program.ofTokens? (.name s :: .openParen :: (r.tokens ++ [.closeParen])) =
      some ⟨[], [.expr (.call s [r.call])]⟩ := by
  cases r <;> rfl

theorem isCall_call (r : Reference) : r.call.isCall = true := by
  cases r <;> rfl

theorem simplify_call (r : Reference) : (Program.mk [] [.expr r.call]).simplify = ⟨[], [.expr r.call]⟩ := by
  cases r <;> rfl

theorem simplify_aggregate (s : String) (r : Reference) :
    (Program.mk [] [.expr (.call s [r.call])]).simplify = ⟨[], [.expr (.call s [r.call])]⟩ := by
  cases r <;> rfl

/-! ## The call of a reference -/

theorem toInt_index {n : Nat} (hn : n < 2 ^ 63) : (Int64.ofInt n).toInt = n :=
  Int64.toInt_ofInt_of_le (by omega) (by omega)

theorem place?_index {m n : Nat} (hm : m < 2 ^ 63) (hn : n < 2 ^ 63) :
    place? (Int64.ofInt m) (Int64.ofInt n) = some (m, n) := by
  have hnonneg : ¬(Int64.ofInt m < 0 ∨ Int64.ofInt n < 0) := by
    simp [Int64.lt_iff_toInt_lt, toInt_index hm, toInt_index hn]
  rw [place?, if_neg hnonneg, toInt_index hm, toInt_index hn]
  rfl

theorem callNative_cell {r : CellRef} (hr : r.InReach) :
    callNative "CELL" [.int (Int64.ofInt r.column), .int (Int64.ofInt r.row)] = Run.ask (.cell r.column r.row) := by
  rw [callNative, place?_index hr.column_lt hr.row_lt]

theorem callNative_range {a b : CellRef} (ha : a.InReach) (hb : b.InReach) :
    callNative "RANGE" [.int (Int64.ofInt a.column), .int (Int64.ofInt a.row), .int (Int64.ofInt b.column),
      .int (Int64.ofInt b.row)] = Run.ask (.range a.column a.row b.column b.row) := by
  rw [callNative, place?_index ha.column_lt ha.row_lt, place?_index hb.column_lt hb.row_lt]

variable {r : Reference} (hr : r.InReach)
include hr

/-- In a script without functions of its own, the call of a reference asks for it. -/
theorem value_call {m : Machine} (hm : ∀ name n, m.function? name n = none)
    (room : Nat) (scope : List Binding) :
    r.call.value m ⟨room + r.cost, scope⟩ = Run.ask r.lookup ⟨room, scope⟩ := by
  cases r with
  | cell r =>
    rw [Reference.call, Expr.value]
    show Run.bind (values m _) (fun vs => m.call "CELL" vs) _ = _
    simp [Run.bind, values, Run.ticked, Run.tick, Machine.call, hm, Expr.value, Reference.argument,
      Literal.value, Reference.cost, Dialogue.bind, Bind.bind, Pure.pure, callNative_cell hr, Reference.lookup]
  | range a b =>
    rw [Reference.call, Expr.value]
    show Run.bind (values m _) (fun vs => m.call "RANGE" vs) _ = _
    simp [Run.bind, values, Run.ticked, Run.tick, Machine.call, hm, Expr.value, Reference.argument,
      Literal.value, Reference.cost, Dialogue.bind, Bind.bind, Pure.pure, callNative_range hr.1 hr.2,
      Reference.lookup]

/-! ## Scripts -/

omit hr

def bareMachine : Machine :=
  ⟨fun _ _ => none, callAt (fun _ _ => none) callLimit, .unit⟩

/-- What a script answers when its statements end like this. -/
def answered : Except Stop Value → Except ErrorCode Value
  | .ok v | .error (.return_ v) => .ok v
  | .error (.fault f) => .error f.code
  | .error _ => .error .error

theorem run_dialogue_expr {limit room : Nat} (hlimit : operationBound limit = room + 1) {script : String} {e : Expr}
    (hparse : Program.parse? script = some ⟨[], [.expr e]⟩) (hcall : e.isCall = true)
    (hsimplify : (Program.mk [] [.expr e]).simplify = ⟨[], [.expr e]⟩) (answer : Lookup → Reply) :
    (dialogue limit script).run answer = answered ((e.value bareMachine ⟨room, []⟩).run answer).1 := by
  have hrun : (Program.mk [] [.expr e]).run ⟨room + 1, []⟩ =
      Run.returned (fun s => e.value bareMachine s) ⟨room, []⟩ := by
    simp only [Program.run, Run.returned, runBody, Run.ticked, Run.bind, Run.tick, Stmt.run, hcall, if_true,
      Dialogue.bind]
    rfl
  show ((interpret limit script).map (Except.mapError Fault.code)).run answer = _
  simp only [interpret, hparse, hsimplify, Program.dialogue, hlimit, hrun, Run.returned, Dialogue.run_map,
    Dialogue.run_bind]
  cases (e.value bareMachine ⟨room, []⟩).run answer with
  | mk result s =>
    cases result with
    | ok v => rfl
    | error stop => cases stop <;> rfl

theorem parse?_of_tokens {script : String} {ts : List Token} {p : Program} (hts : tokens? script = some ts)
    (hp : Program.ofTokens? ts = some p) : Program.parse? script = some p := by
  rw [Program.parse?, hts]
  exact hp

theorem run_ask (answer : Lookup → Reply) (q : Lookup) (s : State) :
    (Run.ask q s).run answer =
      ((answer q).mapError fun c => Stop.fault (.thrown (.code c)), s) := by
  rw [Run.ask, Dialogue.run_ask]
  cases answer q <;> rfl

/-- A limit that leaves room for the few operations of one lookup. -/
def Suffices (limit : Nat) : Prop :=
  8 ≤ operationBound limit

theorem Suffices.exists_room {limit cost : Nat} (h : Suffices limit) (hcost : cost ≤ 7) :
    ∃ room, operationBound limit = room + cost + 1 := by
  unfold Suffices at h
  exact ⟨operationBound limit - cost - 1, by omega⟩

theorem ofWord?_aggregate (a : Aggregate) : ofWord? a.name.toList = some (.name a.name) := by
  cases a <;> rfl

theorem isAlpha_of_mem_aggregate (a : Aggregate) : ∀ c ∈ a.name.toList, c.isAlpha = true := by
  rw [← List.all_eq_true]
  cases a <;> rfl

theorem name_aggregate_ne_nil (a : Aggregate) : a.name.toList ≠ [] := by
  cases a <;> decide

theorem callNative_aggregate (a : Aggregate) {vs : List Value} (h : Aggregate.takes vs.length = true) :
    callNative a.name vs = Run.ofExcept (a.ofValues vs) := by
  have hlibrary : Library.call a.name vs = a.ofValues vs := by
    cases a <;> exact if_pos h
  rw [← hlibrary]
  cases a <;> rfl

theorem value_aggregate (a : Aggregate) {r : Reference} (hr : r.InReach) (room : Nat) (answer : Lookup → Reply) :
    ((Expr.call a.name [r.call]).value bareMachine ⟨room + r.cost + 2, []⟩).run answer =
      match answer r.lookup with
      | .ok v => (Run.ofExcept (a.ofValues [v]) ⟨room, []⟩).run answer
      | .error c => (.error (.fault (.thrown (.code c))), ⟨room + 1, []⟩) := by
  have hvalue := value_call hr (m := bareMachine) (fun _ _ => rfl) (room + 1) []
  rw [show room + 1 + r.cost = room + r.cost + 1 by omega] at hvalue
  rw [Expr.value]
  show (Run.bind (values bareMachine _) (fun vs => bareMachine.call a.name vs) _).run answer = _
  simp only [Run.bind, values, Run.ticked, Run.tick, Bind.bind, Pure.pure, Dialogue.bind, Dialogue.run_bind,
    hvalue, run_ask]
  cases answer r.lookup with
  | error c => rfl
  | ok v =>
    have hcall : bareMachine.call a.name [v] = Run.ticked (Run.ofExcept (a.ofValues [v])) := by
      have htakes : Aggregate.takes [v].length = true := rfl
      rw [← callNative_aggregate a htakes]
      rfl
    show (bareMachine.call a.name [v] ⟨room + 1, []⟩).run answer = _
    rw [hcall]
    rfl

section

variable {limit : Nat} (hlimit : Suffices limit) (answer : Lookup → Reply)
include hr hlimit

/-- A lookup alone answers the reply. -/
theorem run_lookup : (dialogue limit (String.ofList r.script)).run answer = answer r.lookup := by
  obtain ⟨room, hroom⟩ := hlimit.exists_room (Nat.le_trans r.cost_le (by decide))
  rw [run_dialogue_expr hroom (parse?_of_tokens (Reference.tokens?_script hr) (ofTokens?_tokens r))
    (isCall_call r) (simplify_call r), value_call hr fun _ _ => rfl, run_ask]
  cases answer r.lookup <;> rfl

theorem run_aggregate (a : Aggregate) :
    (dialogue limit (String.ofList (a.name.toList ++ '(' :: (r.script ++ [')'])))).run answer =
      (answer r.lookup).bind fun v => (a.ofNumbers (numbers v)).map .float := by
  obtain ⟨room, hroom⟩ := hlimit.exists_room (Nat.add_le_add_right r.cost_le 2)
  have htokens := Reference.tokens?_call hr (isAlpha_of_mem_aggregate a) (name_aggregate_ne_nil a)
    (ofWord?_aggregate a)
  rw [run_dialogue_expr hroom (parse?_of_tokens htokens (ofTokens?_aggregate a.name r)) rfl
    (simplify_aggregate a.name r), ← Nat.add_assoc, value_aggregate a hr]
  cases answer r.lookup with
  | error c => rfl
  | ok v =>
    simp only [Aggregate.ofValues, numbersOfItems, List.append_nil, Except.bind]
    cases a.ofNumbers (numbers v) <;> rfl

end

end Worksheet.Script
