import Worksheet.Script.Dialogue

/-!
# Runs of scripts

A run has variables and a number of operations that it may still take. It ends with a value, or it stops
early: with a fault, or on its way out of a loop or a function.

* `Binding`, `State` : the variables in scope, the innermost first, and the operations left.
* `Stop` : why a run stops early.
* `Run` : a run; `tick`, `fail`, `ofExcept`, `ask` are the least ones.
* `lookUp`, `define`, `store`, `enclosed` : variables.
* `turns`, `endless`, `turn` : loops.
* `recovered`, `absorbed` : handlers of faults; `inCall` : functions that faults leave.
-/

namespace Worksheet.Script

structure Binding where
  name : String
  value : Value
  constant : Bool

structure State where
  /-- How many operations the run may still take. -/
  room : Nat
  scope : List Binding

/-- Why a run stops early. -/
inductive Stop
  | fault (f : Fault)
  /-- Out of the innermost loop, which has this value. -/
  | break_ (v : Value)
  /-- On to the next turn of the innermost loop. -/
  | continue_
  /-- Out of the function or the script, which has this value. -/
  | return_ (v : Value)

def Run (α : Type) : Type :=
  State → Dialogue (Except Stop α × State)

namespace Run

variable {α β : Type}

def bind (m : Run α) (f : α → Run β) : Run β := fun s =>
  (m s).bind fun
    | (.ok a, s) => f a s
    | (.error e, s) => .done (.error e, s)

instance : Monad Run where
  pure a := fun s => .done (.ok a, s)
  bind := bind

def stop (e : Stop) : Run α := fun s =>
  .done (.error e, s)

def fail (f : Fault) : Run α :=
  stop (.fault f)

def ofExcept : Except Fault α → Run α
  | .ok a => pure a
  | .error f => fail f

def tick : Run Unit := fun s =>
  match s.room with
  | 0 => fail .operations s
  | room + 1 => .done (.ok (), { s with room := room })

def ticked (m : Run α) : Run α :=
  bind tick fun _ => m

/-- The reply to a question; a code instead of a value is raised. -/
def ask (q : Lookup) : Run Value := fun s =>
  .ask q fun
    | .ok v => .done (.ok v, s)
    | .error c => fail (.ofCode c) s

/-! ## Variables -/

def lookUp (name : String) : Run Value := fun s =>
  match s.scope.find? fun b => b.name = name with
  | some b => .done (.ok b.value, s)
  | none => fail .unknownName s

def define (name : String) (constant : Bool) (v : Value) : Run Unit := fun s =>
  .done (.ok (), { s with scope := ⟨name, v, constant⟩ :: s.scope })

def replaced (name : String) (v : Value) : List Binding → List Binding
  | [] => []
  | b :: bs => if b.name = name then { b with value := v } :: bs else b :: replaced name v bs

def store (name : String) (v : Value) : Run Unit := fun s =>
  .done (.ok (), { s with scope := replaced name v s.scope })

def target (name : String) : Run Value := fun s =>
  match s.scope.find? fun b => b.name = name with
  | some b => if b.constant then fail .other s else .done (.ok b.value, s)
  | none => fail .unknownName s

/-- A run whose variables are forgotten when it ends, however it ends. -/
def enclosed (m : Run α) : Run α := fun s =>
  (m s).bind fun (r, t) =>
    .done (r, { t with scope := t.scope.drop (t.scope.length - s.scope.length) })

def apart (scope : List Binding) (m : Run α) : Run α := fun s =>
  (m { s with scope := scope }).bind fun (r, t) => .done (r, { t with scope := s.scope })

/-! ## Loops -/

/-- One turn of a loop: the loop's value if the turn ends the loop. -/
def turn (body : Run Value) : Run (Option Value) := fun s =>
  (body s).bind fun
    | (.ok _, s) => .done (.ok none, s)
    | (.error .continue_, s) => .done (.ok none, s)
    | (.error (.break_ v), s) => .done (.ok (some v), s)
    | (.error e, s) => .done (.error e, s)

/-- At most `left` turns, numbered from `i` on, until one ends the loop. -/
def turns (body : Nat → Run (Option Value)) (left i : Nat) : Run (Option Value) := fun s =>
  match left with
  | 0 => .done (.ok none, s)
  | left + 1 =>
    match body i s with
    | .done (.ok none, s) => turns body left (i + 1) s
    | d => d.bind fun
      | (.ok none, s) => turns body left (i + 1) s
      | r => .done r

/-- Turns until one ends the loop. Every turn takes an operation, so there are no more turns than
operations left. -/
def endless (body : Run (Option Value)) : Run Value := fun s =>
  bind (turns (fun _ => body) (s.room + 1) 0)
    (fun
      | some v => pure v
      | none => fail .operations) s

/-! ## Handlers -/

/-- A run in which `handler` takes the place of what follows a fault that may be caught. A handler that
raises `()` raises the fault again. -/
def recovered (m : Run α) (handler : Value → Run α) : Run α := fun s =>
  (m s).bind fun
    | (.error (.fault f), s) =>
      if f.isSystem then fail f s
      else
        (handler f.caught s).bind fun
          | (.error (.fault (.thrown .unit)), s) => fail f s
          | r => .done r
    | r => .done r

def returned (m : Run Value) : Run Value := fun s =>
  (m s).bind fun
    | (.error (.return_ v), s) => .done (.ok v, s)
    | r => .done r

/-- Whether a run comes to `true`. Its fault is no matter, and neither are the operations that it takes. -/
def absorbed (m : Run Value) : Run Bool := fun s =>
  (m s).bind fun
    | (.ok (.bool b), _) => .done (.ok b, s)
    | _ => .done (.ok false, s)

def inCall (name : String) (m : Run α) : Run α := fun s =>
  (m s).bind fun
    | (.error (.fault f), s) => .done (.error (.fault (f.leaving name "")), s)
    | r => .done r

end Run

end Worksheet.Script
