import Statute.Number.Integer

/-!
# Doubles with fixed decimal places

A double is a whole number times a power of two. It is written with a fixed number of decimal
places by rounding its exact value; a value in the middle goes to the even neighbour.
-/

namespace Statute.Number

/-- The quotient rounded to the nearest whole number, in the middle to the even one. -/
def roundedQuotient (dividend divisor : Nat) : Nat :=
  let quotient := dividend / divisor
  let twice := 2 * (dividend % divisor)
  if divisor < twice || (twice = divisor && quotient % 2 = 1) then quotient + 1 else quotient

/-- The parts of a finite double: its sign, and the whole number and the power of two whose product
is its magnitude. -/
structure Binary where
  negative : Bool
  significand : Nat
  exponent : Int
deriving DecidableEq

/-- The parts of the double with a bit pattern, unless it is infinite or no number. -/
def Binary.ofBits? (bits : UInt64) : Option Binary :=
  let bits := bits.toNat
  let exponent := bits / Nat.pow 2 52 % Nat.pow 2 11
  let fraction := bits % Nat.pow 2 52
  let negative := bits / Nat.pow 2 63 = 1
  if exponent = 2047 then none
  else if exponent = 0 then some ⟨negative, fraction, -1074⟩
  else some ⟨negative, Nat.pow 2 52 + fraction, Int.ofNat exponent - 1075⟩

/-- The magnitude in units of the last of some decimal places, rounded. -/
def Binary.scaled (value : Binary) (places : Nat) : Nat :=
  let units := value.significand * Nat.pow 10 places
  if 0 ≤ value.exponent then units * Nat.pow 2 value.exponent.toNat
  else roundedQuotient units (Nat.pow 2 (-value.exponent).toNat)

/-- A finite double with a number of decimal places, at least one. -/
def Binary.fixed (value : Binary) (places : Nat) : String :=
  let digits := toDigits (value.scaled places)
  let padded := List.replicate (places + 1 - digits.length) '0' ++ digits
  let whole := padded.take (padded.length - places)
  let fraction := padded.drop (padded.length - places)
  (if value.negative then "-" else "") ++ String.ofList (whole ++ '.' :: fraction)

/-- A double with a number of decimal places. -/
def fixed (places : Nat) (value : Float) : String :=
  match Binary.ofBits? value.toBits with
  | some parts => parts.fixed places
  | none => if value.isNaN then "NaN" else if value < 0 then "-inf" else "inf"

end Statute.Number
