import Worksheet.Decimal.Binary64

/-!
# Reading decimal numerals

A numeral is an optional sign, digits with an optional point among or beside them, and an optional
exponent of ten. `read?` answers the float nearest to what the numeral says, however many digits it has
and however large its exponent is.

* `takeDigits` : the leading decimal digits of a text and what follows them.
* `Numeral` : the parts of a numeral; `Numeral.ofChars?` reads them.
* `Numeral.toFloat` : the nearest float.
* `read?` : both steps.
-/

namespace Worksheet.Decimal

-- powers of numbers are those of `Nat.pow` and `Int.pow`
attribute [local instance (high)] instPowNat

def digitValue (c : Char) : Nat :=
  c.toNat - '0'.toNat

def takeDigits (cs : List Char) : List Char × List Char :=
  (cs.takeWhile Char.isDigit, cs.dropWhile Char.isDigit)

def ofDigits (ds : List Char) : Nat :=
  ds.foldl (fun n d => 10 * n + digitValue d) 0

/-- `± digits * 10 ^ exponent`. -/
structure Numeral where
  negative : Bool
  digits : Nat
  exponent : Int
  deriving DecidableEq, Repr

namespace Numeral

def takeSign : List Char → Bool × List Char
  | '-' :: cs => (true, cs)
  | '+' :: cs => (false, cs)
  | cs => (false, cs)

/-- What may follow the digits: nothing, or an exponent mark and a signed whole number. -/
def exponent? : List Char → Option Int
  | [] => some 0
  | c :: cs =>
    if c = 'e' ∨ c = 'E' then
      let (negative, cs) := takeSign cs
      match takeDigits cs with
      | (d :: ds, []) =>
        let n := ofDigits (d :: ds)
        some (if negative then -(n : Int) else n)
      | _ => none
    else none

def takeFraction : List Char → List Char × List Char
  | '.' :: cs => takeDigits cs
  | cs => ([], cs)

/-- The parts of a numeral without its sign. At least one digit stands before or after the point. -/
def unsigned? (negative : Bool) (cs : List Char) : Option Numeral :=
  let (whole, cs) := takeDigits cs
  let (fraction, cs) := takeFraction cs
  if whole.isEmpty && fraction.isEmpty then none
  else (exponent? cs).map fun e =>
    { negative := negative
      digits := ofDigits (whole ++ fraction)
      exponent := e - fraction.length }

def ofChars? (cs : List Char) : Option Numeral :=
  let (negative, cs) := takeSign cs
  unsigned? negative cs

def width (n : Nat) : Nat :=
  if n = 0 then 0 else (Nat.toDigits 10 n).length

/-- The sign-free word of the nearest float. A number below `10 ^ -330` is nearest to zero and one from
`10 ^ 310` on is past the largest float, so no power of ten larger than these bounds is ever formed. -/
def toWord (n : Numeral) : Nat :=
  let top := (width n.digits : Int) + n.exponent
  if n.digits = 0 ∨ top < -330 then 0
  else if 310 < top then infinityWord
  else if 0 ≤ n.exponent then nearest (n.digits * 10 ^ n.exponent.toNat) 1
  else nearest n.digits (10 ^ (-n.exponent).toNat)

def toFloat (n : Numeral) : Float :=
  ofParts n.negative n.toWord

end Numeral

/-- The float nearest to a numeral, if the text is one; infinite if the numeral is too large. -/
def read? (cs : List Char) : Option Float :=
  (Numeral.ofChars? cs).map Numeral.toFloat

end Worksheet.Decimal
