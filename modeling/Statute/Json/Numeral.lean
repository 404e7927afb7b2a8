import Statute.Number.Integer

/-!
# Numbers in JSON text

A number as it is written, and the double that it stands for. The digits are gathered into an
unsigned integer of sixty-four bits, as many as fit; the power of ten is applied to that integer
in one floating-point operation, or in several where it exceeds the range of a double.
-/

namespace Statute.Json

/-- A number as it is written: its sign, the digits before and after the point, and the signed
exponent, whose digits may be absent. -/
structure Numeral where
  negative : Bool
  whole : List Char
  fraction : List Char
  exponentNegative : Bool
  exponent : List Char
deriving DecidableEq

namespace Numeral

/-- The text of a number. -/
def text (numeral : Numeral) : String :=
  String.ofList <|
    (if numeral.negative then ['-'] else []) ++ numeral.whole ++
    (if numeral.fraction.isEmpty then [] else '.' :: numeral.fraction) ++
    (if numeral.exponent.isEmpty then []
      else 'e' :: (if numeral.exponentNegative then ['-'] else []) ++ numeral.exponent)

/-- The number that an integer is. -/
def ofInt (value : Int) : Numeral :=
  ⟨value < 0, Number.toDigits value.natAbs, [], false, []⟩

/-- The greatest value of sixty-four bits. -/
def maximumSignificand : Nat := UInt64.size - 1

/-- Gathers digits before the point. The first digit that does not fit and all after it only raise
the power of ten. -/
def gatherWhole (significand : Nat) : List Char → Nat × Nat
  | [] => (significand, 0)
  | digit :: rest =>
    let next := 10 * significand + Number.digitValue digit
    if maximumSignificand < next then (significand, rest.length + 1) else gatherWhole next rest

/-- Gathers digits after the point, each of which lowers the power of ten. The first digit that
does not fit and all after it are dropped. -/
def gatherFraction (significand lowered : Nat) : List Char → Nat × Nat
  | [] => (significand, lowered)
  | digit :: rest =>
    let next := 10 * significand + Number.digitValue digit
    if maximumSignificand < next then (significand, lowered)
    else gatherFraction next (lowered + 1) rest

/-- The double nearest to a power of ten. -/
def powerOfTen (exponent : Nat) : Float :=
  Float.ofScientific 1 false exponent

/-- A power of ten applied to a double. Above the range of a double there is no result. -/
def scale (value : Float) (exponent : Int) : Option Float :=
  if 0 ≤ exponent then
    if exponent ≤ 308 then
      let scaled := value * powerOfTen exponent.toNat
      if scaled.isInf then none else some scaled
    else if value == 0.0 then some value
    else none
  else if h : -308 ≤ exponent then some (value / powerOfTen (-exponent).toNat)
  else if value == 0.0 then some value
  else scale (value / powerOfTen 308) (exponent + 308)
termination_by exponent.natAbs
decreasing_by omega

/-- The greatest exponent that is read as a number. -/
def maximumExponent : Nat := UInt32.size / 2 - 1

/-- The double that a number stands for, when it is in the range of a double. -/
def toDouble? (numeral : Numeral) : Option Float := do
  let (significand, raised) := gatherWhole 0 numeral.whole
  let (significand, lowered) := gatherFraction significand 0 numeral.fraction
  let exponent := Number.ofDigits numeral.exponent
  let magnitude ←
    if maximumExponent < exponent then
      if significand ≠ 0 ∧ !numeral.exponentNegative then none else some 0.0
    else
      let written : Int := if numeral.exponentNegative then -exponent else exponent
      scale significand.toUInt64.toFloat ((raised : Int) - lowered + written)
  return if numeral.negative then -magnitude else magnitude

end Numeral

end Statute.Json
