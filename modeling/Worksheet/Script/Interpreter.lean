import Worksheet.Script.Engine
import Worksheet.Script.Library
import Worksheet.Script.Parser
import Worksheet.Script.Run
import Worksheet.Script.Simplify

/-!
# Running scripts

The interpreter is a part of the engine: the scripts that the parser reads, with the functions that the library has. Any
other script is malformed to it, and any other function unknown. `dedup` is here for variables only, and is no level of
its own among calls that are nested.

* `Machine` : what a running script can call; `Machine.dedup` : the function of the library that calls functions.
* `Expr.value`, `Stmt.run`, `runBody` : the values of expressions and statements.
* `callAt` : calls of the functions that a script defines, nested up to a limit.
* `Program.run`, `interpret` : whole scripts; `interpreter` is the engine that they make up.
-/

namespace Worksheet.Script

-- powers of numbers are those of `Nat.pow` and `Int.pow`
attribute [local instance (high)] instPowNat

/-- What surrounds an expression or a statement. -/
structure Machine where
  /-- The function of the script with this name and so many arguments. -/
  function? : String → Nat → Option Function
  /-- Calls a function of the script on a value. -/
  enter : Function → Value → List Value → Run Value
  /-- The value that the function around was called on. -/
  this : Value

/-! ## Calls -/

def place? (column row : Int64) : Option (Nat × Nat) :=
  if column < 0 ∨ row < 0 then none else some (column.toInt.toNat, row.toInt.toNat)

/-- A call of a function that is not the script's. -/
def callNative (name : String) (arguments : List Value) : Run Value :=
  match name, arguments with
  | "CELL", [.int c, .int r] =>
    match place? c r with
    | some (c, r) => Run.ask (.cell c r)
    | none => Run.ask .negative
  | "RANGE", [.int c₁, .int r₁, .int c₂, .int r₂] =>
    match place? c₁ r₁, place? c₂ r₂ with
    | some (c₁, r₁), some (c₂, r₂) => Run.ask (.range c₁ r₁ c₂ r₂)
    | _, _ => Run.ask .negative
  | name, arguments => Run.ofExcept (Library.call name arguments)

namespace Machine

def call (m : Machine) (name : String) (arguments : List Value) : Run Value :=
  match m.function? name arguments.length with
  | some f => m.enter f .unit arguments
  | none => Run.ticked (callNative name arguments)

/-- A call of a function on a value: the script's own functions get at the value as `this`, others take
it as their first argument. -/
def callOn (m : Machine) (v : Value) (name : String) (arguments : List Value) : Run Value :=
  match m.function? name arguments.length with
  | some f => m.enter f v arguments
  | none => Run.ticked (callNative name (v :: arguments))

/-- What is left of the items after `last` without those that the function `same` finds the same as the one that is
left before them. Two items between which it has a fault are not the same. -/
def deduped (m : Machine) (same : String) (last : Value) : List Value → Run (List Value)
  | [] => pure []
  | v :: vs => do
    if ← Run.absorbed (m.call same [last, v]) then m.deduped same last vs
    else return v :: (← m.deduped same v vs)

/-- Replaces the array that a variable has by what is left of it. -/
def dedup (m : Machine) (name same : String) : Run Value := do
  match ← Run.target name with
  | .array [] => return .unit
  | .array (v :: vs) =>
    Run.store name (.array (v :: (← m.deduped same v vs)))
    return .unit
  | _ => Run.fail .unknownName

end Machine

/-! ## Steps -/

/-- A step whose arguments have been evaluated. -/
inductive Move
  | index (v : Value)
  | property (name : String)
  | method (function : String) (arguments : List Value)

def Move.apply (m : Machine) (v : Value) : Move → Run Value
  | .index i => Run.ticked (Run.ofExcept (Library.element v i))
  | .property p => Run.ticked (Run.ofExcept (Library.property p v))
  | .method f arguments => m.callOn v f arguments

def follow (m : Machine) (v : Value) : List Move → Run Value
  | [] => pure v
  | move :: moves => do follow m (← move.apply m v) moves

/-- The variable that a chain calls `dedup` on. No other function of the library here changes what it is called on. -/
def dedupTarget? (base : Expr) (steps : List Step) : Option String :=
  match base, steps with
  | .name s, [.method "dedup" [_]] => some s
  | _, _ => none

/-- A call of `dedup` on a variable, unless the script has a function of that name. -/
def callDedup (m : Machine) (name : String) (moves : List Move) : Run Value :=
  match moves, m.function? "dedup" 1 with
  | [.method _ [.function same]], none => Run.ticked (Run.ticked (m.dedup name same))
  | _, _ => do follow m (← Run.ticked (Run.lookUp name)) moves

/-- A value with what moves lead to replaced by `new` of it. -/
def updated (m : Machine) (new : Value → Except Fault Value) (v : Value) : List Move → Run Value
  | [] => Run.ofExcept (new v)
  | .index i :: moves => do
    let old ← Run.ofExcept (Library.element v i)
    Run.ofExcept (Library.setElement v i (← updated m new old moves))
  | .property p :: moves => do
    let old ← Run.ofExcept (Library.property p v)
    Run.ofExcept (Library.setProperty p v (← updated m new old moves))
  | .method f arguments :: moves => do
    let _ ← updated m new (← m.callOn v f arguments) moves
    return v

/-! ## Iterables -/

def itemsOf? : Value → Option (Nat × (Nat → Value))
  | .array vs =>
    let items := vs.toArray
    some (items.size, fun i => items.getD i .unit)
  | .text s =>
    let cs := s.toList.toArray
    some (cs.size, fun i => (cs[i]?).elim .unit .char)
  | .range a b inclusive =>
    let last := if inclusive then b.toInt + 1 else b.toInt
    some ((last - a.toInt).toNat, fun i => .int (Int64.ofInt (a.toInt + i)))
  | _ => none

/-! ## Trees -/

/-- Whether an expression is a call, which as a statement takes one operation and not two. -/
def Expr.isCall : Expr → Bool
  | .unary .. | .binary .. | .within .. | .call .. => true
  | _ => false

def truth : Value → Run Bool
  | .bool b => pure b
  | _ => Run.fail .mismatch

mutual

def Expr.value (m : Machine) : Expr → Run Value
  | .literal l => pure l.value
  | .name s => Run.lookUp s
  | .this => pure m.this
  | .array es => do return .array (← values m es)
  | .map keys es => do
    return .map ((keys.zip (← values m es)).foldl (fun entries e => Value.setEntry e.1 e.2 entries) [])
  | .template es => do return .text (String.join ((← values m es).map Value.joined))
  | .both a b => do
    if ← truth (← Run.ticked (a.value m)) then return .bool (← truth (← Run.ticked (b.value m)))
    else return .bool false
  | .either a b => do
    if ← truth (← Run.ticked (a.value m)) then return .bool true
    else return .bool (← truth (← Run.ticked (b.value m)))
  | .coalesce a b => do
    match ← Run.ticked (a.value m) with
    | .unit => Run.ticked (b.value m)
    | v => return v
  | .unary op a => do Run.ofExcept (op.apply (← Run.ticked (a.value m)))
  | .binary op a b => do
    let v ← Run.ticked (a.value m)
    let w ← Run.ticked (b.value m)
    Run.ofExcept (op.apply v w)
  | .within container item => do
    let v ← Run.ticked (container.value m)
    let w ← Run.ticked (item.value m)
    Run.ofExcept (contains v w)
  | .call f es => do m.call f (← values m es)
  | .chain base steps => do
    let moves ← moves m steps
    match dedupTarget? base steps with
    | some name => callDedup m name moves
    | none => follow m (← Run.ticked (base.value m)) moves
  | .statement st => st.run m

def values (m : Machine) : List Expr → Run (List Value)
  | [] => pure []
  | e :: es => do
    let v ← Run.ticked (e.value m)
    return v :: (← values m es)

def Step.move (m : Machine) : Step → Run Move
  | .index e => do return .index (← Run.ticked (e.value m))
  | .property p => pure (.property p)
  | .method f es => do return .method f (← values m es)

def moves (m : Machine) : List Step → Run (List Move)
  | [] => pure []
  | st :: sts => do
    let move ← st.move m
    return move :: (← moves m sts)

def Stmt.run (m : Machine) : Stmt → Run Value
  | .skip => pure .unit
  | .expr e => if e.isCall then e.value m else Run.ticked (e.value m)
  | .define v constant e => do
    Run.define v constant (← Run.ticked (e.value m))
    return .unit
  | .assign v path op e => do
    let new ← Run.ticked (e.value m)
    let moves ← moves m path
    let old ← Run.target v
    Run.tick
    let result ← updated m (fun old => op.elim (.ok new) fun op => op.update old new) old moves
    Run.store v result
    return .unit
  | .if_ c yes no => do
    if ← truth (← Run.ticked (c.value m)) then Run.enclosed (runBody m yes)
    else Run.enclosed (runBody m no)
  | .while_ c body => Run.endless do
    if ← truth (← Run.ticked (c.value m)) then Run.turn (Run.enclosed (runBody m body))
    else return some .unit
  | .loop body => Run.endless (Run.ticked (Run.turn (Run.enclosed (runBody m body))))
  | .for_ item counter iterable body => do
    match itemsOf? (← Run.ticked (iterable.value m)) with
    | none => Run.fail .other
    | some (size, itemAt) =>
      let result ← Run.turns (fun i => Run.ticked (Run.turn (Run.enclosed (do
        if let some name := counter then Run.define name false (.int (Int64.ofNat i))
        Run.define item false (itemAt i)
        runBody m body)))) size 0
      return result.getD .unit
  | .break_ e => do Run.stop (.break_ (← Run.ticked (e.value m)))
  | .continue_ => Run.stop .continue_
  | .return_ e => do Run.stop (.return_ (← Run.ticked (e.value m)))
  | .throw_ e => do Run.fail (.thrown (← Run.ticked (e.value m)))
  | .try_ body caught handler =>
    Run.recovered (Run.enclosed (runBody m body)) fun v => Run.enclosed do
      if let some name := caught then Run.define name false v
      let _ ← runBody m handler
      return .unit
  | .block body => Run.enclosed (runBody m body)

def runBody (m : Machine) : List Stmt → Run Value
  | [] => pure .unit
  | [st] => Run.ticked (st.run m)
  | st :: sts => do
    let _ ← Run.ticked (st.run m)
    runBody m sts

end

/-! ## Scripts -/

/-- How many calls of a script's functions may be nested, which is the engine's limit in a debug build. A release build
allows more. -/
def callLimit : Nat := 8

def callAt (function? : String → Nat → Option Function) (levels : Nat) (f : Function) (this : Value)
    (arguments : List Value) : Run Value :=
  match levels with
  | 0 => Run.ticked (Run.fail .callDepth)
  | levels + 1 =>
    let scope := (f.parameters.zip arguments).reverse.map fun (name, v) => ⟨name, v, false⟩
    let body := runBody ⟨function?, callAt function? levels, this⟩ f.body
    Run.ticked (Run.apart scope (Run.inCall f.name (Run.returned body)))

def Program.run (p : Program) : Run Value :=
  Run.returned (runBody ⟨p.function?, callAt p.function? callLimit, .unit⟩ p.body)

/-- The bound on operations that a limit stands for. The engine has no limit where it is zero; here `2 ^ 64 - 1`
operations stand for that, which no run comes to. -/
def operationBound (limit : Nat) : Nat :=
  if limit = 0 then 2 ^ (64 : Nat) - 1 else limit

/-- The result of a script that may take so many operations, or its fault. -/
def Program.dialogue (p : Program) (limit : Nat) : Dialogue (Except Fault Value) :=
  (p.run ⟨operationBound limit, []⟩).bind fun (r, _) =>
    .done (match r with
      | .ok v => .ok v
      | .error (.fault f) => .error f
      | .error _ => .error .other)

/-- The run of the text of a script, which has a fault if it is malformed. -/
def interpret (limit : Nat) (script : String) : Dialogue (Except Fault Value) :=
  match Program.parse? script with
  | none => .done (.error .parsing)
  | some p => p.simplify.dialogue limit

instance interpreter : Engine where
  run := interpret
  absorbers := ["dedup"]

end Worksheet.Script
