import Worksheet.Script.Aggregate
import Worksheet.Script.Operator
import Worksheet.Text.UpperCase

/-!
# The functions of scripts

Functions that need nothing but their arguments: the aggregates and a few others. A function is chosen
by its name and the types of its arguments; there is no conversion between types.

This is a part of the engine's library. A function that is not here is unknown, where the engine would go on: its
library also rounds and has trigonometric functions, clocks and random numbers, changes arrays, maps and texts (`push`,
`remove`, `sort`), passes items to functions (`map`, `filter`, `reduce`), and calls and runs what it is given (`call`,
`curry`, `eval`). Of those that change what they are called on only `dedup` is modelled, by the interpreter. So what is
said of all scripts is stated for any engine, of which the interpreter is one.

* `Library.call` : what a function answers; an unknown one is a fault.
* `Library.property?` : the properties of values that are not maps.
* `Library.element` : what stands at an index; `Library.setElement` : a value with it replaced.
-/

namespace Worksheet.Script.Library

-- powers of numbers are those of `Nat.pow` and `Int.pow`
attribute [local instance (high)] instPowNat

/-- Whether a text could name a function: letters, digits and `_`, of which a letter comes first apart
from underscores. -/
def isIdentifier (s : String) : Bool :=
  (match s.toList.dropWhile (· = '_') with
    | c :: _ => c.isAlpha
    | [] => false) &&
  s.toList.all fun d => d.isAlphanum || d = '_'

def truncate (x : Float) : Except Fault Value :=
  if x.isNaN || x.isInf then .error (.arithmetic "Integer overflow")
  else
    let n : Int := Decimal.units (Decimal.magnitude x) / Decimal.unitsPerOne
    checked "Integer overflow" (if Decimal.isNegative x then -n else n)

/-- The lesser or the greater of two numbers, texts or characters, as `keepFirst` says of the order that
holds between them. -/
def choose (keepFirst : BinaryOp) (v w : Value) : Except Fault Value :=
  match comparison v w with
  | .ints .. => .ok (if holds (keepFirst.apply v w) then v else w)
  | .texts .. =>
    if v.typeName = w.typeName then .ok (if holds (keepFirst.apply v w) then v else w)
    else .error .unknownName
  | .floats x y =>
    .ok (.float (if (if keepFirst = .le then x ≤ y else y ≤ x) then x else y))
  | .neither => .error .unknownName

/-- A character in upper case; one that would become several stays as it is. -/
def upperChar (c : Char) : Char :=
  match (Text.upper (String.singleton c)).toList with
  | [d] => d
  | _ => c

/-- What a function without an aggregate's name answers. -/
def plain (name : String) (arguments : List Value) : Except Fault Value :=
  match name, arguments with
  | "type_of", [v] => .ok (.text v.typeName)
  | "to_string", [v] => .ok (.text v.joined)
  | "abs", [.int n] => checked "Negation overflow" n.toInt.natAbs
  | "abs", [.float x] => .ok (.float x.abs)
  | "min", [v, w] => choose .le v w
  | "max", [v, w] => choose .ge v w
  | "floor", [.float x] => .ok (.float x.floor)
  | "sqrt", [.float x] => .ok (.float x.sqrt)
  | "PI", [] => .ok (.float 3.141592653589793)
  | "to_int", [.int n] => .ok (.int n)
  | "to_int", [.float x] => truncate x
  | "to_upper", [.text s] => .ok (.text (Text.upper s))
  | "to_upper", [.char c] => .ok (.char (upperChar c))
  | "len", [.text s] => .ok (.int (Int64.ofNat s.length))
  | "len", [.array vs] => .ok (.int (Int64.ofNat vs.length))
  | "len", [.map es] => .ok (.int (Int64.ofNat es.length))
  | "Fn", [.text s] => if isIdentifier s then .ok (.function s) else .error .unknownName
  | _, _ => .error .unknownName

def call (name : String) (arguments : List Value) : Except Fault Value :=
  match Aggregate.ofName? name with
  | some a => if Aggregate.takes arguments.length then a.ofValues arguments else .error .unknownName
  | none => plain name arguments

/-! ## Properties and elements -/

def property? (name : String) (v : Value) : Option Value :=
  match name, v with
  | "len", .text s => some (.int (Int64.ofNat s.length))
  | "len", .array vs => some (.int (Int64.ofNat vs.length))
  | _, _ => none

/-- The place that an index means among `size` places; negative ones count from the end. -/
def place? (size : Nat) (index : Int64) : Option Nat :=
  let i := index.toInt
  if 0 ≤ i then (if i < size then some i.toNat else none)
  else if i.natAbs ≤ size then some (size - i.natAbs)
  else none

/-- The places of a range among `size` places: where it starts and how many it has. -/
def span (size : Nat) (first last : Int64) (inclusive : Bool) : Nat × Nat :=
  let start := first.toInt.toNat
  let stop := (if inclusive then last.toInt + 1 else last.toInt).toNat
  (min start size, min stop size - min start size)

/-- What stands at an index: an item of an array, the value under a key, a character or a part of a text, a bit of an
integer. -/
def element (v index : Value) : Except Fault Value :=
  match v, index with
  | .array vs, .int i =>
    match place? vs.length i with
    | some n => .ok (vs.getD n .unit)
    | none => .error .mismatch
  | .map es, .text k => .ok (Value.entry k es)
  | .text s, .int i =>
    match place? s.length i with
    | some n => .ok (.char (s.toList.getD n ' '))
    | none => .error .mismatch
  | .text s, .range a b inclusive =>
    let (start, size) := span s.length a b inclusive
    .ok (.text (String.ofList ((s.toList.drop start).take size)))
  | .int n, .int i =>
    match place? 64 i with
    | some k => .ok (.bool ((n.toInt.fdiv (2 ^ k)) % 2 = 1))
    | none => .error .other
  | _, _ => .error .mismatch

def setElement (v index new : Value) : Except Fault Value :=
  match v, index with
  | .array vs, .int i =>
    match place? vs.length i with
    | some n => .ok (.array (vs.set n new))
    | none => .error .mismatch
  | .map es, .text k => .ok (.map (Value.setEntry k new es))
  | .text s, .int i =>
    match place? s.length i, new with
    | some n, .char c => .ok (.text (String.ofList (s.toList.set n c)))
    | some _, _ => .error .mismatch
    | none, _ => .error .mismatch
  | .int n, .int i =>
    match place? 64 i, new with
    | some k, .bool b =>
      let bit := Int64.ofInt (2 ^ k)
      .ok (.int (if b then n ||| bit else n &&& ~~~bit))
    | some _, _ => .error .mismatch
    | none, _ => .error .other
  | _, _ => .error .mismatch

def property (name : String) (v : Value) : Except Fault Value :=
  match v with
  | .map es => .ok (Value.entry name es)
  | v =>
    match property? name v with
    | some w => .ok w
    | none => .error .other

/-- A value with a property replaced; only maps have properties that can be. -/
def setProperty (name : String) (v new : Value) : Except Fault Value :=
  match v with
  | .map es => .ok (.map (Value.setEntry name new es))
  | _ => .error .other

end Worksheet.Script.Library
