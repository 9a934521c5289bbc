import Worksheet.CellValue
import Worksheet.Script.Fault

/-!
# Outcomes

What a formula comes to: a value, or an error beside an empty text.

* `Script.Value.toCell` : the value of a cell from the value of a script.
* `Outcome` : a value and an error; `Outcome.ok`, `Outcome.err` : the two ways to make one.
* `Outcome.ofRun` : the outcome of a script.
* `Outcome.toResult`, `Outcome.ofResult` : outcomes as results, where there is a value or an error and not both.
-/

namespace Worksheet

/-- The value of a cell from the result of a script. A number has to be finite; arrays and maps have no
value in one cell. -/
def Script.Value.toCell : Script.Value → Result
  | .unit => .ok .empty
  | .float x =>
    if x.isNaN then .error .num else if x.isInf then .error .divZero else .ok (.number x)
  | .int n => .ok (.number (Decimal.ofInt n.toInt))
  | .bool b => .ok (.text (if b then "TRUE" else "FALSE"))
  | .code c => .error c
  | .array _ | .map _ => .error .value
  | .text s => .ok (.text s)
  | .char c => .ok (.text (String.singleton c))
  | v => .ok (.text v.joined)

/-- What a formula comes to. Beside an error the value has no meaning. -/
structure Outcome where
  value : CellValue
  error : Option ErrorCode

namespace Outcome

def ok (v : CellValue) : Outcome :=
  ⟨v, none⟩

def err (c : ErrorCode) : Outcome :=
  ⟨.empty, some c⟩

def ofResult : Result → Outcome
  | .ok v => ok v
  | .error c => err c

def toResult (o : Outcome) : Result :=
  match o.error with
  | some c => .error c
  | none => .ok o.value

def ofRun (r : Except Script.Fault Script.Value) : Outcome :=
  ofResult ((r.mapError Script.Fault.code).bind Script.Value.toCell)

@[simp] theorem toResult_ofResult (r : Result) : (ofResult r).toResult = r := by
  cases r <;> rfl

end Outcome

end Worksheet
