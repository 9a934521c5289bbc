import Worksheet.Script.Value

/-!
# Why scripts stop

A script that stops without a value has a fault. A lookup that fails raises its code; on its way out of the functions
of a script and out of modules, a fault is put into one that names them. What a script that has stopped answers is
read off the fault inside.

Of the engine's own faults only what decides the code is kept: not the place in the script, not the names and types
that its messages spell out, and not the fields of the account that a handler is given.

* `Fault` : the causes; `Fault.ofCode` is the one that a failed lookup raises.
* `Fault.leaving` : a fault on its way out of a function; `Fault.root` : the fault inside.
* `Fault.code` : the error code of a fault, the same as that of the fault inside (`Fault.code_root`).
-/

namespace Worksheet.Script

/-- Why a script stops without a value. -/
inductive Fault
  /-- The script, or a lookup on its behalf, raises a value. -/
  | thrown (v : Value)
  /-- A function of the script, defined in `source`, stops. -/
  | inFunctionCall (name source : String) (inner : Fault)
  | inModule (path : String) (inner : Fault)
  /-- The text is no script. -/
  | parsing
  /-- A variable, a property, or a function for the given arguments, is unknown. -/
  | unknownName
  /-- A division by zero, or an integer result out of bounds, as the message says. -/
  | arithmetic (message : String)
  /-- A value of the wrong type where a type is required, or a place outside a text or an array. -/
  | mismatch
  /-- Anything else that is wrong with a script while it runs. -/
  | other
  /-- Calls are nested too deeply. -/
  | callDepth
  /-- The script takes more operations than it may. -/
  | operations
  deriving Inhabited

namespace Fault

/-- What a lookup that fails raises. -/
def ofCode (c : ErrorCode) : Fault :=
  thrown (.code c)

/-- The fault inside the calls and modules that it has left. -/
def root : Fault → Fault
  | inFunctionCall _ _ inner | inModule _ inner => inner.root
  | f => f

/-- Whether the word `zero` occurs in a text, in capital or small letters. -/
def speaksOfZero : List Char → Bool
  | [] => false
  | c :: cs => "zero".toList.isPrefixOf ((c :: cs).map Char.toLower) || speaksOfZero cs

/-- The error code that a stopped script answers: the one it raises, if it raises one. -/
def code : Fault → ErrorCode
  | thrown (.code c) => c
  | thrown _ => .error
  | inFunctionCall _ _ inner | inModule _ inner => inner.code
  | parsing => .error
  | unknownName => .name
  | arithmetic message => if speaksOfZero message.toList then .divZero else .num
  | mismatch => .value
  | other => .error
  | callDepth => .recursionLimit
  | operations => .error

/-- Whether a fault is the engine's way to stop a script altogether. It goes out of functions as it is, and no handler
gets it. -/
def isSystem : Fault → Bool
  | parsing | callDepth | operations => true
  | _ => false

def leaving (name source : String) (f : Fault) : Fault :=
  if f.isSystem then f else inFunctionCall name source f

/-- What a handler receives: the value that was raised, or the bare account of another fault. -/
def caught (f : Fault) : Value :=
  match f.root with
  | thrown v => v
  | _ => .map []

@[simp] theorem root_leaving (name source : String) (f : Fault) : (f.leaving name source).root = f.root := by
  unfold leaving
  split
  · rfl
  · rfl

theorem code_root (f : Fault) : f.root.code = f.code := by
  induction f with
  | inFunctionCall name source inner ih => exact ih
  | inModule path inner ih => exact ih
  | _ => rfl

@[simp] theorem code_ofCode (c : ErrorCode) : (ofCode c).code = c := rfl

end Fault

end Worksheet.Script
