import QualityGate.Number

/-!
# Decimal logarithm

The logarithm to base ten of a number that is at least one, in floating point. The number is split into a power of two and a
mantissa, whose natural logarithm comes from a polynomial in the square of `s = f / (2 + f)`, where `1 + f` is the mantissa, halved
when it is above the root of two. The constants are those of the usual approximation with an error below one unit in the last
place; the logarithms of powers of ten are exact.
-/

namespace QualityGate.Number

/-- The power of two at or below a number of at least one. -/
def binaryExponent (q : Rat) : Nat := q.floor.toNat.log2

/-- The logarithm of two as a short leading part and a rest. -/
def ln2High : Number := 6.93147180369123816490e-01

def ln2Low : Number := 1.90821492927058770002e-10

/-- The first 20 bits of the fraction of a mantissa between one and two. -/
def leadingBits (mantissa : Rat) : Nat := ((mantissa - 1) * ((power 2 20 : Nat) : Rat)).floor.toNat

/-- The even part of the series for the logarithm of `1 + f`, from the square of `s`. -/
def logSeries (square : Number) : Number :=
  let w := square * square
  let even := w * (3.999999999940941908e-01 + w * (2.222219843214978396e-01 + w * 1.531383769920937332e-01))
  let odd := square * (6.666666666666735130e-01 + w * (2.857142874366239149e-01 + w * (1.818357216161805012e-01 +
    w * 1.479819860511658591e-01)))
  odd + even

/-- The logarithm of `1 + f` together with that of `2 ^ k`, where `k` is zero or one. -/
def logSum (k : Nat) (f : Number) (bits : Nat) : Number :=
  let dk := ofNat k
  if bits = 0 ∨ 0xFFFFE ≤ bits then
    if f.same 0 then dk * ln2High + dk * ln2Low
    else
      let r := f * f * (0.5 - 0.33333333333333333 * f)
      if k = 0 then f - r else dk * ln2High - ((r - dk * ln2Low) - f)
  else
    let s := f / (2 + f)
    let r := logSeries (s * s)
    if 0x6147A ≤ bits ∧ bits ≤ 0x6B851 then
      let half := 0.5 * f * f
      if k = 0 then f - (half - s * (half + r))
      else dk * ln2High - ((half - (s * (half + r) + dk * ln2Low)) - f)
    else if k = 0 then f - s * (f - r)
    else dk * ln2High - ((s * (f - r) - dk * ln2Low) - f)

/-- The natural logarithm of a mantissa between one and two. -/
def logMantissa (mantissa : Rat) : Number :=
  let bits := leadingBits mantissa
  if 0x6A09C ≤ bits then logSum 1 (ofRat (mantissa / 2 - 1)) bits else logSum 0 (ofRat (mantissa - 1)) bits

/-- The logarithm to base ten of a number, zero for numbers below one. -/
def log10 : Number → Number
  | .finite q =>
    if q ≤ 1 then .finite 0
    else
      let k := binaryExponent q
      let y := ofNat k
      let z := y * 3.69423907715893078616e-13 +
        4.34294481903251816668e-01 * logMantissa (q / ((power 2 k : Nat) : Rat))
      z + y * 3.01029995663611771306e-01
  | other => other

end QualityGate.Number
