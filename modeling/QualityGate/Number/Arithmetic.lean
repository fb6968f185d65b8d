import QualityGate.Number

/-!
# Arithmetic over any numbers

The operations that scores and percentages are computed with, for floating-point numbers (`Number`) and for exact ones (`Rat`).
-/

namespace QualityGate

/-- Numbers with the four operations, comparisons and rounding to whole ones. -/
class Arithmetic (ν : Type) extends Add ν, Sub ν, Mul ν, Div ν where
  /-- The constant `coefficient / 10 ^ places`. -/
  constant : Int → Nat → ν
  /-- Whether a value is no number at all. -/
  undefined : ν → Bool
  /-- Whether a number is smaller than another. -/
  less : ν → ν → Bool
  /-- Whether two numbers are equal. -/
  equal : ν → ν → Bool
  /-- The larger of two numbers. -/
  larger : ν → ν → ν
  /-- The smaller of two numbers. -/
  smaller : ν → ν → ν
  /-- The nearest whole number, a half upwards. -/
  nearest : ν → ν

instance : Arithmetic Number where
  constant := Number.ofDecimal
  undefined := Number.isNan
  less := Number.lt
  equal := Number.same
  larger := Number.max
  smaller := Number.min
  nearest := Number.round

instance : Arithmetic Rat where
  constant coefficient places := mkRat coefficient (power 10 places)
  undefined _ := false
  less a b := a < b
  equal a b := a = b
  larger a b := if a < b then b else a
  smaller a b := if b < a then b else a
  nearest a := ((a + 1 / 2).floor : Int)

namespace Arithmetic

variable {ν : Type} [Arithmetic ν]

/-- A whole constant. -/
def whole (n : Int) : ν := constant n 0

def atMost (a b : ν) : Bool := less a b || equal a b

/-- A percentage held between 0 and 100; a value that is no number counts as 0. -/
def clampPercent (x : ν) : ν := if undefined x then whole 0 else smaller (whole 100) (larger (whole 0) x)

/-- A number rounded to one place by scaling. -/
def round1 (x : ν) : ν := nearest (x * whole 10) / whole 10

end Arithmetic

end QualityGate
