import Worksheet.Script.Fault
import Worksheet.Decimal.Binary64

/-!
# Operators

The operators of scripts on values. Integers are words of 64 bits and checked; an integer beside a float
counts as a float. Floats are compared up to a relative error. A text on either side of `+` makes it
joining.

* `UnaryOp`, `BinaryOp` : the operators; `UnaryOp.apply`, `BinaryOp.apply` : what they answer.
* `contains` : the operator `in`.
* `Value.same` : equality by content, as arrays and maps compare.
-/

namespace Worksheet.Script

-- powers of numbers are those of `Nat.pow` and `Int.pow`
attribute [local instance (high)] instPowNat

inductive UnaryOp
  | minus | plus | not
  deriving DecidableEq, Repr

inductive BinaryOp
  | add | sub | mul | div | rem | pow
  | shiftLeft | shiftRight | bitAnd | bitOr | bitXor
  | eq | ne | lt | le | gt | ge
  | upTo | upThrough
  deriving DecidableEq, Repr

/-! ## Integers -/

def checked (message : String) (n : Int) : Except Fault Value :=
  if -(2 ^ (63 : Nat)) ≤ n ∧ n < 2 ^ (63 : Nat) then .ok (.int (Int64.ofInt n)) else .error (.arithmetic message)

/-- `a` to the power `b`, for exponents from 0 to `2 ^ 32 - 1`. -/
def intPow (a b : Int) : Except Fault Value :=
  if b < 0 then .error (.arithmetic "Integer raised to a negative index")
  else if 2 ^ (32 : Nat) ≤ b then .error (.arithmetic "Exponential overflow")
  else if a.natAbs ≤ 1 then
    checked "Exponential overflow" (if b = 0 then 1 else if a = -1 ∧ b % 2 = 0 then 1 else a)
  else if 64 ≤ b then .error (.arithmetic "Exponential overflow")
  else checked "Exponential overflow" (a ^ b.toNat)

/-- `a` with its bits moved `k` places towards the high end; bits that leave the word are lost. -/
def moveUp (a : Int64) (k : Nat) : Int64 :=
  if 64 ≤ k then 0 else Int64.ofInt (a.toInt * 2 ^ k)

/-- `a` with its bits moved `k` places towards the low end; the sign moves in. -/
def moveDown (a : Int64) (k : Nat) : Int64 :=
  if 64 ≤ k then (if a < 0 then -1 else 0) else Int64.ofInt (a.toInt.fdiv (2 ^ k))

/-- `<<`, the other way round for a negative number of places. -/
def shiftedLeft (a b : Int64) : Int64 :=
  if b < 0 then moveDown a b.toInt.natAbs else moveUp a b.toInt.natAbs

def shiftedRight (a b : Int64) : Int64 :=
  if b < 0 then moveUp a b.toInt.natAbs else moveDown a b.toInt.natAbs

def BinaryOp.onInts (op : BinaryOp) (a b : Int64) : Except Fault Value :=
  match op with
  | .add => checked "Addition overflow" (a.toInt + b.toInt)
  | .sub => checked "Subtraction overflow" (a.toInt - b.toInt)
  | .mul => checked "Multiplication overflow" (a.toInt * b.toInt)
  | .div =>
    if b = 0 then .error (.arithmetic "Division by zero")
    else checked "Division overflow" (a.toInt.tdiv b.toInt)
  | .rem =>
    if b = 0 ∨ (a.toInt = -(2 ^ (63 : Nat)) ∧ b = -1) then
      .error (.arithmetic "Modulo division by zero or overflow")
    else checked "Modulo division by zero or overflow" (a.toInt.tmod b.toInt)
  | .pow => intPow a.toInt b.toInt
  | .shiftLeft => .ok (.int (shiftedLeft a b))
  | .shiftRight => .ok (.int (shiftedRight a b))
  | .bitAnd => .ok (.int (a &&& b))
  | .bitOr => .ok (.int (a ||| b))
  | .bitXor => .ok (.int (a ^^^ b))
  | .eq => .ok (.bool (a == b))
  | .ne => .ok (.bool (a != b))
  | .lt => .ok (.bool (a < b))
  | .le => .ok (.bool (a ≤ b))
  | .gt => .ok (.bool (b < a))
  | .ge => .ok (.bool (b ≤ a))
  | .upTo => .ok (.range a b false)
  | .upThrough => .ok (.range a b true)

/-! ## Floats -/

/-- The relative error within which floats compare as equal, `2 ^ -52`. -/
def tolerance : Float := 2.220446049250313e-16

/-- What a difference of `x` and `y` is measured by. -/
def scale (x y : Float) : Float :=
  if x * y == 0.0 then 1.0 else if x.abs < y.abs then y.abs else x.abs

/-- Whether `x` is greater than `y` by more than `margin`, relative to their scale. -/
def exceeds (margin x y : Float) : Bool :=
  margin < (x - y) / scale x y

def BinaryOp.onFloats (op : BinaryOp) (x y : Float) : Except Fault Value :=
  match op with
  | .add => .ok (.float (x + y))
  | .sub => .ok (.float (x - y))
  | .mul => .ok (.float (x * y))
  | .div => .ok (.float (x / y))
  | .rem => .ok (.float (Decimal.remainder x y))
  | .pow => .ok (.float (x.pow y))
  | .eq => .ok (.bool ((x - y).abs / scale x y ≤ tolerance))
  | .ne => .ok (.bool (tolerance < (x - y).abs / scale x y))
  | .gt => .ok (.bool (exceeds tolerance x y))
  | .ge => .ok (.bool (exceeds (-tolerance) x y))
  | .lt => .ok (.bool (exceeds tolerance y x))
  | .le => .ok (.bool (exceeds (-tolerance) y x))
  | _ => .error .unknownName

/-! ## Texts -/

/-- `cs` without every occurrence of `part`; `skip` characters belong to one already found. -/
def removeFrom (part : List Char) (skip : Nat) : List Char → List Char
  | [] => []
  | c :: cs =>
    match skip with
    | skip + 1 => removeFrom part skip cs
    | 0 =>
      if part.isPrefixOf (c :: cs) then removeFrom part (part.length - 1) cs
      else c :: removeFrom part 0 cs

def remove (s part : String) : String :=
  if part = "" then s else String.ofList (removeFrom part.toList 0 s.toList)

def hasPart (part : List Char) : List Char → Bool
  | [] => part.isEmpty
  | c :: cs => part.isPrefixOf (c :: cs) || hasPart part cs

/-- The operators on two texts; a character counts as a text of one. -/
def BinaryOp.onTexts (op : BinaryOp) (s t : String) : Except Fault Value :=
  match op with
  | .add => .ok (.text (s ++ t))
  | .sub => .ok (.text (remove s t))
  | .eq => .ok (.bool (s = t))
  | .ne => .ok (.bool (s ≠ t))
  | .lt => .ok (.bool (s < t))
  | .le => .ok (.bool (¬ t < s))
  | .gt => .ok (.bool (t < s))
  | .ge => .ok (.bool (¬ s < t))
  | _ => .error .unknownName

/-! ## Equality by content -/

inductive Comparison
  | ints (a b : Int64)
  | floats (x y : Float)
  | texts (s t : String)
  /-- Not comparable by value. -/
  | neither

/-- Numbers are compared as numbers, texts and characters as texts. -/
def comparison : Value → Value → Comparison
  | .int a, .int b => .ints a b
  | .int a, .float y => .floats (Decimal.ofInt a.toInt) y
  | .float x, .int b => .floats x (Decimal.ofInt b.toInt)
  | .float x, .float y => .floats x y
  | .text s, .text t => .texts s t
  | .text s, .char d => .texts s (String.singleton d)
  | .char c, .text t => .texts (String.singleton c) t
  | .char c, .char d => .texts (String.singleton c) (String.singleton d)
  | _, _ => .neither

/-- The truth of an answer; whatever is not a truth value counts as false. -/
def holds : Except Fault Value → Bool
  | .ok (.bool b) => b
  | _ => false

mutual

def Value.same : Value → Value → Bool
  | .unit, .unit => true
  | .bool a, .bool b => a = b
  | .array vs, .array ws => sameItems vs ws
  | .map es, .map fs => sameEntries es fs
  | .range a b i, .range c d j => a = c && b = d && i = j
  | v, w =>
    match comparison v w with
    | .ints a b => a = b
    | .floats x y => holds (BinaryOp.eq.onFloats x y)
    | .texts s t => s = t
    | .neither => false

def Value.sameItems : List Value → List Value → Bool
  | [], [] => true
  | v :: vs, w :: ws => v.same w && sameItems vs ws
  | _, _ => false

def Value.sameEntries : List (String × Value) → List (String × Value) → Bool
  | [], [] => true
  | (k, v) :: es, (l, w) :: fs => k = l && v.same w && sameEntries es fs
  | _, _ => false

end

/-! ## All operators -/

/-- What a comparison answers for values of different types: nothing but `!=` holds. Any other operator
is unknown. -/
def BinaryOp.onStrangers (op : BinaryOp) : Except Fault Value :=
  match op with
  | .ne => .ok (.bool true)
  | .eq | .lt | .le | .gt | .ge => .ok (.bool false)
  | _ => .error .unknownName

def BinaryOp.onBools (op : BinaryOp) (a b : Bool) : Except Fault Value :=
  match op with
  | .bitAnd => .ok (.bool (a && b))
  | .bitOr => .ok (.bool (a || b))
  | .bitXor => .ok (.bool (a != b))
  | .eq => .ok (.bool (a = b))
  | .ne => .ok (.bool (a ≠ b))
  | .lt | .le | .gt | .ge => .ok (.bool false)
  | _ => .error .unknownName

def BinaryOp.byContent (op : BinaryOp) (v w : Value) : Except Fault Value :=
  match op with
  | .eq => .ok (.bool (v.same w))
  | .ne => .ok (.bool (!v.same w))
  | _ => .error .unknownName

def BinaryOp.apply (op : BinaryOp) (v w : Value) : Except Fault Value :=
  match comparison v w with
  | .ints a b => op.onInts a b
  | .floats x y => op.onFloats x y
  | .texts s t =>
    match op, v with
    | .sub, .char _ => .error .unknownName
    | op, _ => op.onTexts s t
  | .neither =>
    match op, v, w with
    | .add, .text s, w => .ok (.text (s ++ w.joined))
    | .add, v, .text t => .ok (.text (v.joined ++ t))
    | .add, .array vs, .array ws => .ok (.array (vs ++ ws))
    | .add, .map es, .map fs => .ok (.map (fs.foldl (fun m e => Value.setEntry e.1 e.2 m) es))
    | .eq, .unit, .unit => .ok (.bool true)
    | .ne, .unit, .unit => .ok (.bool false)
    | op, .bool a, .bool b => op.onBools a b
    | op, .array vs, .array ws => op.byContent (.array vs) (.array ws)
    | op, .map es, .map fs => op.byContent (.map es) (.map fs)
    | op, .range a b i, .range c d j =>
      if i = j then op.byContent (.range a b i) (.range c d j) else op.onStrangers
    | _, .function _, .function _ => .error .unknownName
    | _, .code _, .code _ => .error .unknownName
    | op, _, _ => op.onStrangers

def UnaryOp.apply (op : UnaryOp) (v : Value) : Except Fault Value :=
  match op, v with
  | .minus, .int n => checked "Negation overflow" (-n.toInt)
  | .minus, .float x => .ok (.float (-x))
  | .plus, .int n => .ok (.int n)
  | .plus, .float x => .ok (.float x)
  | .not, .bool b => .ok (.bool !b)
  | _, _ => .error .unknownName

/-- What an assignment with an operator stores; an array takes any value as a new item. -/
def BinaryOp.update (op : BinaryOp) (v w : Value) : Except Fault Value :=
  match op, v, w with
  | .add, .array vs, .array ws => .ok (.array (vs ++ ws))
  | .add, .array vs, w => .ok (.array (vs ++ [w]))
  | op, v, w => op.apply v w

def contains (container item : Value) : Except Fault Value :=
  match container, item with
  | .text s, .text t => .ok (.bool (hasPart t.toList s.toList))
  | .text s, .char c => .ok (.bool (s.toList.contains c))
  | .array vs, v => .ok (.bool (vs.any (Value.same v)))
  | .map es, .text k => .ok (.bool (es.lookup k).isSome)
  | .range a b inclusive, .int n =>
    .ok (.bool (a ≤ n && (if inclusive then n ≤ b else n < b)))
  | _, _ => .error .unknownName

end Worksheet.Script
