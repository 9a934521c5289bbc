/-!
# Finite floats as whole multiples of the least positive float

Every finite 64-bit float is a whole number of *units*, a unit being `2 ^ -1074`. The sign apart, the
63-bit word of a float determines its units (`units`), and a fraction determines the word of the float
nearest to it (`nearest`), so decimal text is read and written in natural number arithmetic alone.

* `units` : the units of a sign-free word.
* `nearest` : the word of the float nearest to `num / den`, half to even; too large is infinity.
* `isNegative`, `magnitude` : the two parts of a float's bits; `ofParts` puts them together.
* `ofFraction`, `ofInt` : the float nearest to a fraction, and to an integer.
* `remainder` : the exact remainder of two floats.
-/

namespace Worksheet.Decimal

-- powers of numbers are those of `Nat.pow` and `Int.pow`
attribute [local instance (high)] instPowNat

/-- The number of units in one: `2 ^ 1074`. -/
def unitsPerOne : Nat := 2 ^ (1074 : Nat)

/-- `2 ^ 52`, the least significand of a normal float. -/
def hiddenBit : Nat := 2 ^ (52 : Nat)

/-- The sign-free word of infinity; the finite words are those below it. -/
def infinityWord : Nat := 2047 * hiddenBit

def units (word : Nat) : Nat :=
  if word / hiddenBit = 0 then word
  else (hiddenBit + word % hiddenBit) * 2 ^ (word / hiddenBit - 1)

/-- How many low bits a significand of 53 bits leaves out of `n`. -/
def excessBits (n : Nat) : Nat :=
  n.log2 + 1 - 53

/-- `num / den` to the nearest whole number, half to the even neighbour. -/
def roundHalfEven (num den : Nat) : Nat :=
  let floor := num / den
  let rest := 2 * (num % den)
  if rest < den then floor
  else if rest = den then floor + floor % 2
  else floor + 1

/-- The sign-free word of the float nearest to `num / den`, half to even, for `0 < den`. Fractions past
the largest finite float have the word of infinity. -/
def nearest (num den : Nat) : Nat :=
  let scaled := num * unitsPerOne
  let excess := excessBits (scaled / den)
  min infinityWord (excess * hiddenBit + roundHalfEven scaled (den * 2 ^ excess))

/-! ## Floats and their words -/

def isNegative (x : Float) : Bool :=
  2 ^ (63 : Nat) ≤ x.toBits.toNat

def magnitude (x : Float) : Nat :=
  x.toBits.toNat % 2 ^ (63 : Nat)

def ofParts (negative : Bool) (word : Nat) : Float :=
  Float.ofBits (UInt64.ofNat (if negative then 2 ^ (63 : Nat) + word else word))

def ofFraction (negative : Bool) (num den : Nat) : Float :=
  ofParts negative (nearest num den)

def ofInt (n : Int) : Float :=
  ofFraction (n < 0) n.natAbs 1

/-- The remainder of `x` by `y` with the sign of `x`, exactly; no number for a zero divisor, an infinite
dividend or an operand that is no number. -/
def remainder (x y : Float) : Float :=
  if x.isNaN || y.isNaN || x.isInf || magnitude y = 0 then 0.0 / 0.0
  else if y.isInf then x
  else ofFraction (isNegative x) (units (magnitude x) % units (magnitude y)) unitsPerOne

/-! ## Laws -/

theorem hiddenBit_pos : 0 < hiddenBit := by decide

theorem units_of_lt {word : Nat} (h : word < hiddenBit) : units word = word := by
  simp [units, Nat.div_eq_of_lt h]

theorem units_eq_zero_iff {word : Nat} : units word = 0 ↔ word = 0 := by
  unfold units
  split
  · rfl
  · rename_i h
    have hpos : 0 < hiddenBit := hiddenBit_pos
    constructor
    · intro h0
      have : 0 < (hiddenBit + word % hiddenBit) * 2 ^ (word / hiddenBit - 1) :=
        Nat.mul_pos (by omega) (Nat.pow_pos (by omega))
      omega
    · rintro rfl
      simp at h

end Worksheet.Decimal
