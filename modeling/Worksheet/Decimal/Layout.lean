import Worksheet.Decimal.Shortest

/-!
# Laying out a number

The digits of a number are those of `shortest`; where its point stands and whether it is written with an
exponent is a `Layout`. Two layouts are in use: the one of displayed cells, which never writes an
exponent, and the one of numbers that a formula joins to text.
-/

namespace Worksheet.Decimal

/-- How numbers are written. -/
structure Layout where
  /-- Written after a number without a fraction. -/
  wholeMark : String
  /-- Whether zero keeps its sign. -/
  signedZero : Bool
  /-- Positive numbers below this one are written with an exponent. -/
  least : Float
  /-- Numbers above this one are written with an exponent. -/
  greatest : Float
  /-- The text of the values that are no number. -/
  notANumber : String
  /-- The text of infinity. -/
  infinity : String
  /-- The text of negative infinity. -/
  negativeInfinity : String

namespace Layout

/-- Digits and zeros around a point that never moves into an exponent; `wholeMark` ends a number
without a fraction. -/
def positional (wholeMark : String) (s : Scaled) : String :=
  let ds := Nat.toDigits 10 s.digits
  if 0 ≤ s.exponent then
    String.ofList (ds ++ List.replicate s.exponent.toNat '0') ++ wholeMark
  else
    let places := (-s.exponent).toNat
    if places < ds.length then
      String.ofList (ds.take (ds.length - places) ++ '.' :: ds.drop (ds.length - places))
    else
      String.ofList ('0' :: '.' :: (List.replicate (places - ds.length) '0' ++ ds))

/-- One digit before the point, the rest after it, and the power of ten. -/
def exponential (s : Scaled) : String :=
  let ds := Nat.toDigits 10 s.digits
  let power : Int := s.exponent + ds.length - 1
  let fraction := if ds.length ≤ 1 then [] else '.' :: ds.drop 1
  String.ofList (ds.take 1 ++ fraction) ++ "e" ++ toString power

def positive (layout : Layout) (x : Float) : String :=
  let s := shortest (magnitude x)
  if x < layout.least || layout.greatest < x then exponential s
  else positional layout.wholeMark s

def text (layout : Layout) (x : Float) : String :=
  if x.isNaN then layout.notANumber
  else if x.isInf then if isNegative x then layout.negativeInfinity else layout.infinity
  else
    let sign := if isNegative x then "-" else ""
    if magnitude x = 0 then
      (if layout.signedZero then sign else "") ++ "0" ++ layout.wholeMark
    else sign ++ layout.positive (ofParts false (magnitude x))

end Layout

/-- Displayed numbers: no exponent at any size, no fraction for whole numbers, and a signed zero. What
is no number shows as `#NUM!`, and what is infinite as `#DIV/0!`. -/
def displayed : Layout where
  wholeMark := ""
  signedZero := true
  least := 0.0
  greatest := 1.0 / 0.0
  notANumber := "#NUM!"
  infinity := "#DIV/0!"
  negativeInfinity := "#DIV/0!"

/-- Numbers joined to text: whole ones end in `.0`, zero has no sign, and an exponent is written
outside a range whose bounds are the single precision numbers nearest to `10 ^ -13` and `10 ^ 13`. -/
def inText : Layout where
  wholeMark := ".0"
  signedZero := false
  least := 9.99999982451670044181213370393379591405391693115234375e-14
  greatest := 9999999827968.0
  notANumber := "NaN"
  infinity := "inf"
  negativeInfinity := "-inf"

end Worksheet.Decimal
