import Worksheet.Decimal.Numeral

/-!
# The fewest digits that read back

`shortest word` is the decimal number `digits * 10 ^ exponent` with the fewest digits whose nearest float
is the one with that word; among decimals of that length it is the one nearest to the float, and the
greater of two that are equally near.

The search looks at one, two, … seventeen digits. For each count it tests the two neighbours of the
float on that decimal grid by reading them back. Should none read back, the float's own full decimal
expansion does; `shortest` therefore reads back by construction.
-/

namespace Worksheet.Decimal

-- powers of numbers are those of `Nat.pow` and `Int.pow`
attribute [local instance (high)] instPowNat

structure Scaled where
  digits : Nat
  exponent : Int
  deriving DecidableEq, Repr

namespace Scaled

def toWord (s : Scaled) : Nat :=
  Numeral.toWord ⟨false, s.digits, s.exponent⟩

/-- Moves trailing zeros of the digits into the exponent; at most `fuel` of them. -/
def trimZeros : Nat → Scaled → Scaled
  | 0, s => s
  | fuel + 1, s =>
    if s.digits % 10 = 0 ∧ s.digits ≠ 0 then trimZeros fuel ⟨s.digits / 10, s.exponent + 1⟩ else s

def normal (s : Scaled) : Scaled :=
  s.trimZeros (Numeral.width s.digits)

end Scaled

/-- The float with this many units, in units of `10 ^ exponent`, as a fraction. -/
def gridFraction (units : Nat) (exponent : Int) : Nat × Nat :=
  if 0 ≤ exponent then (units, unitsPerOne * 10 ^ exponent.toNat)
  else (units * 10 ^ (-exponent).toNat, unitsPerOne)

/-- The place of the highest digit of a positive float: it is below `10 ^ top` and at least
`10 ^ (top - 1)`. The least positive float exceeds `10 ^ -324`, so 340 further places show it. -/
def topPlace (units : Nat) : Int :=
  (Numeral.width (units * 10 ^ (340 : Nat) / unitsPerOne) : Int) - 340

/-- The decimal numbers with last place `10 ^ exponent` next to the float, the nearer first; of two at one
distance the greater first. -/
def neighbours (units : Nat) (exponent : Int) : List Scaled :=
  let (num, den) := gridFraction units exponent
  let below : Scaled := ⟨num / den, exponent⟩
  let above : Scaled := ⟨num / den + 1, exponent⟩
  if 2 * (num % den) < den then [below, above] else [above, below]

def expansion (units : Nat) : Scaled :=
  ⟨units * 5 ^ (1074 : Nat), -1074⟩

/-- All candidates, shorter ones first and the nearer of two before the other. -/
def candidates (units : Nat) : List Scaled :=
  (List.range 17).flatMap fun n => neighbours units (topPlace units - (n + 1 : Nat))

/-- The decimal of fewest digits that reads back as the finite float with this sign-free word. -/
def shortest (word : Nat) : Scaled :=
  let u := units word
  (((candidates u).find? fun s => s.toWord = word).getD (expansion u)).normal

end Worksheet.Decimal
