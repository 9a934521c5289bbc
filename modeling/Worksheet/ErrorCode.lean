/-!
# Error codes

What the evaluation of a formula can fail with. Codes are data: a failed evaluation answers one.

* `ErrorCode` : the causes.
* `ErrorCode.text` : the code as a sheet shows it; some causes share one.
* `ErrorCode.kind`, `ErrorCode.ofKind?` : the causes' own names.
-/

namespace Worksheet

/-- Why a formula has no value. -/
inductive ErrorCode
  /-- A reference points past the extent. -/
  | outOfRange
  /-- A formula asks for the cell that it is evaluated for. -/
  | selfReference
  /-- Evaluations are nested, or formulas follow one another, beyond the limit. -/
  | recursionLimit
  /-- The formula is malformed, runs out of operations or raises an error of its own. -/
  | error
  /-- Division by zero, or an infinite result. -/
  | divZero
  /-- Something named in the formula does not exist. -/
  | name
  | notAvailable
  | null
  /-- A number out of bounds, or a result that is no number. -/
  | num
  /-- A lookup at a negative column or row. -/
  | ref
  /-- A value of an unsuited kind. -/
  | value
  deriving DecidableEq, Repr, Inhabited

namespace ErrorCode

def all : List ErrorCode :=
  [outOfRange, selfReference, recursionLimit, error, divZero, name, notAvailable, null, num, ref, value]

def text : ErrorCode → String
  | outOfRange => "#N/A"
  | selfReference => "#REF!"
  | recursionLimit => "#CIRC!"
  | error => "#ERROR!"
  | divZero => "#DIV/0!"
  | name => "#NAME?"
  | notAvailable => "#N/A"
  | null => "#NULL!"
  | num => "#NUM!"
  | ref => "#REF!"
  | value => "#VALUE!"

def kind : ErrorCode → String
  | outOfRange => "OutOfRange"
  | selfReference => "SelfReference"
  | recursionLimit => "RecursionLimit"
  | error => "Error"
  | divZero => "DivZero"
  | name => "Name"
  | notAvailable => "NotAvailable"
  | null => "Null"
  | num => "Num"
  | ref => "Ref"
  | value => "Value"

def ofKind? (s : String) : Option ErrorCode :=
  all.find? fun c => c.kind = s

end ErrorCode

end Worksheet
