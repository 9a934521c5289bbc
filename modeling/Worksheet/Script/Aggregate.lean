import Worksheet.Script.Fault

/-!
# Aggregates

`SUM`, `AVERAGE`, `MIN`, `MAX` and `COUNT` take up to four arguments. Only the numbers among them count,
those in arrays included and in their order; everything else is passed over.

* `numbers` : the numbers of a value.
* `Aggregate` : the functions; `Aggregate.ofNumbers`, `Aggregate.ofValues` : what they answer.
-/

namespace Worksheet.Script

mutual

/-- The numbers of a value, those in arrays in order. Integers become floats. -/
def numbers : Value → List Float
  | .float x => [x]
  | .int n => [Decimal.ofInt n.toInt]
  | .array items => numbersOfItems items
  | _ => []

def numbersOfItems : List Value → List Float
  | [] => []
  | v :: vs => numbers v ++ numbersOfItems vs

end

inductive Aggregate
  | sum | average | min | max | count
  deriving DecidableEq, Repr

namespace Aggregate

def all : List Aggregate := [sum, average, min, max, count]

def name : Aggregate → String
  | sum => "SUM"
  | average => "AVERAGE"
  | min => "MIN"
  | max => "MAX"
  | count => "COUNT"

def ofName? (s : String) : Option Aggregate :=
  all.find? fun a => a.name = s

/-- The sum of numbers, from the first to the last. The sum of none is `-0`. -/
def total (xs : List Float) : Float :=
  xs.foldl (· + ·) (-0.0)

/-- The less of two numbers; what is no number is passed over. -/
def lesser (x y : Float) : Float :=
  if x.isNaN || y < x then y else x

def greater (x y : Float) : Float :=
  if x.isNaN || x < y then y else x

/-- `f` between the numbers from the first to the last; zero for none. -/
def between (f : Float → Float → Float) : List Float → Float
  | [] => 0.0
  | x :: xs => xs.foldl f x

def ofNumbers (a : Aggregate) (xs : List Float) : Except ErrorCode Float :=
  match a with
  | sum => .ok (total xs)
  | average => if xs.isEmpty then .error .divZero else .ok (total xs / Decimal.ofInt xs.length)
  | min => .ok (between lesser xs)
  | max => .ok (between greater xs)
  | count => .ok (Decimal.ofInt xs.length)

def takes (n : Nat) : Bool :=
  1 ≤ n && n ≤ 4

def ofValues (a : Aggregate) (arguments : List Value) : Except Fault Value :=
  match a.ofNumbers (numbersOfItems arguments) with
  | .ok x => .ok (.float x)
  | .error c => .error (.ofCode c)

end Aggregate

end Worksheet.Script
