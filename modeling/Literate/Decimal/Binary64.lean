/-
This file holds the numbers of the 64-bit binary floating-point format, as sign,
mantissa and exponent in exact arithmetic. A decimal number is read as the nearest
of them, a half going to the even mantissa; a number is written with the fewest
decimal digits that are read back as the same number, and of those with the nearest,
a half going to the larger one.
-/

import Literate.Text

namespace Literate

/-- A number of the 64-bit binary format. -/
inductive Binary64 where
  /-- The mantissa times two to the exponent, with a sign that zero has as well. -/
  | finite (negative : Bool) (mantissa : Nat) (exponent : Int)
  | infinite (negative : Bool)
  | notANumber
  deriving DecidableEq

namespace Binary64

/-- The number of bits of a mantissa. -/
def precision : Nat := 53

/-- The least mantissa that uses all of its bits. -/
def leastNormal : Nat := Nat.pow 2 (precision - 1)

/-- The exponent of the smallest numbers. -/
def leastExponent : Int := -1074

/-- The exponent of the largest numbers. -/
def greatestExponent : Int := 971

/-! ### Reading -/

/-- The whole number nearest to a quotient, a half going to the even one. -/
def roundQuotient (numerator denominator : Nat) : Nat :=
  let quotient := numerator / denominator
  let rest := 2 * (numerator % denominator)
  if rest < denominator then quotient
  else if denominator < rest then quotient + 1
  else quotient + quotient % 2

/-- A quotient divided by a power of a base, the power being of either sign. -/
def scaleDown (base : Nat) (exponent : Int) (ratio : Nat × Nat) : Nat × Nat :=
  (ratio.1 * Nat.pow base (-exponent).toNat, ratio.2 * Nat.pow base exponent.toNat)

/-- The exponent of the greatest power of two that a positive quotient reaches. -/
def binaryMagnitude (ratio : Nat × Nat) : Int :=
  let guess : Int := (ratio.1.log2 : Int) - ratio.2.log2
  let scaled := scaleDown 2 guess ratio
  if scaled.2 ≤ scaled.1 then guess else guess - 1

/-- The number nearest to a quotient. -/
def ofRatio (negative : Bool) (ratio : Nat × Nat) : Binary64 :=
  if ratio.1 = 0 then .finite negative 0 leastExponent
  else
    let exponent := max (binaryMagnitude ratio - (precision - 1 : Nat)) leastExponent
    let scaled := scaleDown 2 exponent ratio
    let mantissa := roundQuotient scaled.1 scaled.2
    let (mantissa, exponent) :=
      if mantissa = 2 * leastNormal then (leastNormal, exponent + 1) else (mantissa, exponent)
    if greatestExponent < exponent then .infinite negative else .finite negative mantissa exponent

/-- The number nearest to a decimal number, given by its digits and a power of ten. Powers far
beyond the range of the format are settled without being computed. -/
def ofDecimal (negative : Bool) (digits : Nat) (exponent : Int) : Binary64 :=
  let length : Int := (Nat.toDigits 10 digits).length
  if digits = 0 then .finite negative 0 leastExponent
  else if 400 < exponent + length then .infinite negative
  else if exponent + length < -400 then .finite negative 0 leastExponent
  else ofRatio negative (scaleDown 10 (-exponent) (digits, 1))

/-! ### Writing -/

/-- The exponent of the greatest power of ten that a positive quotient reaches. -/
def decimalMagnitude (ratio : Nat × Nat) : Int :=
  if ratio.2 ≤ ratio.1 then (Nat.toDigits 10 (ratio.1 / ratio.2)).length - 1
  else
    match (List.range 400).find? fun places => decide (ratio.2 ≤ ratio.1 * Nat.pow 10 places) with
    | some places => -(places : Int)
    | none => 0

/-- The quotients between which every decimal number is read as the given number: the one below,
the number itself and the one above, over one denominator. -/
def neighbourhood (mantissa : Nat) (exponent : Int) : (Nat × Nat × Nat) × Nat :=
  let below := if mantissa = leastNormal ∧ leastExponent < exponent then 1 else 2
  let scaled := scaleDown 2 (2 - exponent) (1, 1)
  (((4 * mantissa - below) * scaled.1, 4 * mantissa * scaled.1, (4 * mantissa + 2) * scaled.1),
    scaled.2)

/-- The nearest decimal number with a number of digits that is read back as a number, if there
is one; of two at the same distance, the larger. It is given by its digits and a power of ten. -/
def withDigits? (mantissa : Nat) (exponent : Int) (count : Nat) : Option (Nat × Int) :=
  let ((low, middle, high), denominator) := neighbourhood mantissa exponent
  let place := decimalMagnitude (middle, denominator) + 1 - count
  let grid := scaleDown 10 place (middle, denominator)
  let floor := grid.1 / grid.2
  let inside (digits : Nat) : Bool :=
    let unit := scaleDown 10 (-place) (digits * denominator, 1)
    if mantissa % 2 = 0 then decide (low * unit.2 ≤ unit.1) && decide (unit.1 ≤ high * unit.2)
    else decide (low * unit.2 < unit.1) && decide (unit.1 < high * unit.2)
  let nearerBelow := decide (2 * (grid.1 % grid.2) < grid.2)
  let preferred := if nearerBelow then [floor, floor + 1] else [floor + 1, floor]
  (preferred.find? inside).map fun digits =>
    if digits % 10 = 0 then (digits / 10, place + 1) else (digits, place)

/-- The decimal number with the fewest digits that is read back as a number. Seventeen digits
always suffice. -/
def shortest (mantissa : Nat) (exponent : Int) : Nat × Int :=
  ((List.range 17).findSome? fun fewer => withDigits? mantissa exponent (fewer + 1)).getD (0, 0)

/-- Digits times a power of ten in positional form, without an exponent and without a point
when there are no places after it. -/
def positional (digits : Nat) (exponent : Int) : Text :=
  let written := Text.ofNat digits
  let places := (-exponent).toNat
  if 0 ≤ exponent then written ++ List.replicate exponent.toNat '0'
  else if places < written.length then
    written.take (written.length - places) ++ '.' :: written.drop (written.length - places)
  else '0' :: '.' :: List.replicate (places - written.length) '0' ++ written

/-- The written form of a number. -/
def display : Binary64 → Text
  | .notANumber => Text.ofString "NaN"
  | .infinite false => Text.ofString "inf"
  | .infinite true => Text.ofString "-inf"
  | .finite negative mantissa exponent =>
    let size :=
      if mantissa = 0 then ['0']
      else
        let found := shortest mantissa exponent
        positional found.1 found.2
    if negative then '-' :: size else size

end Binary64

end Literate
