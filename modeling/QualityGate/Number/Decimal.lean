import QualityGate.Number

/-!
# Decimal text of a number

Two ways to write a number. `Number.text` gives the fewest digits that read back as the number, positionally between `1e-6` and
`1e21` and with an exponent elsewhere. `Number.fixed` gives a fixed count of places, a half away from zero.
-/

namespace QualityGate.Number

/-- The digits of a whole number, with no leading zero. -/
def digits (n : Nat) : List Char := Nat.toDigits 10 n

/-- Whether the magnitude `num / den` is below `10 ^ k`. -/
def belowTenPow (num den : Nat) (k : Int) : Bool :=
  num * power 10 (-k).toNat < den * power 10 k.toNat

/-- The count of digits before the decimal point: the least `k` with `num / den < 10 ^ k`, for a magnitude that is not zero. -/
def pointPosition (num den : Nat) : Int :=
  let guess : Int := (((num.log2 : Int) - (den.log2 : Int) - 1) * 30103) / 100000 - 1
  let rec climb : Nat → Int → Int
    | 0, k => k
    | fuel + 1, k => if belowTenPow num den k then k else climb fuel (k + 1)
  climb 6 guess

/-- The two values on the grid of `count` digits beside the magnitude `num / den`, and the exponent of ten of that grid. -/
def gridNeighbours (num den : Nat) (point : Int) (count : Nat) : Nat × Nat × Int :=
  let exponent := point - count
  let low := num * power 10 (-exponent).toNat / (den * power 10 exponent.toNat)
  (low, low + 1, exponent)

/-- The exact value `coefficient * 10 ^ exponent`. -/
def tenScaled (coefficient : Nat) (exponent : Int) : Rat :=
  mkRat (coefficient * power 10 exponent.toNat) (power 10 (-exponent).toNat)

/-- The shorter of the decimals with `count` digits that reads back as the magnitude, the nearer one if both do. -/
def readsBack (magnitude : Rat) (point : Int) (count : Nat) : Option (Nat × Int) :=
  let (low, high, exponent) := gridNeighbours magnitude.num.natAbs magnitude.den point count
  let target := Number.finite magnitude
  let lowBack := ofRat (tenScaled low exponent) = target
  let highBack := ofRat (tenScaled high exponent) = target
  if lowBack ∧ highBack then
    let below := magnitude - tenScaled low exponent
    let above := tenScaled high exponent - magnitude
    if below < above ∨ (below = above ∧ low % 2 = 0) then some (low, exponent) else some (high, exponent)
  else if lowBack then some (low, exponent)
  else if highBack then some (high, exponent)
  else none

/-- A coefficient without its trailing zeros, which move into the exponent. -/
def stripZeros : Nat → Nat → Int → Nat × Int
  | 0, coefficient, exponent => (coefficient, exponent)
  | fuel + 1, coefficient, exponent =>
    if coefficient % 10 = 0 ∧ coefficient ≠ 0 then stripZeros fuel (coefficient / 10) (exponent + 1)
    else (coefficient, exponent)

/-- The shortest decimal that reads back as a magnitude that is not zero: its coefficient and its exponent of ten. Seventeen
digits always suffice. -/
def shortest (magnitude : Rat) : Nat × Int :=
  let point := pointPosition magnitude.num.natAbs magnitude.den
  let found := ((List.range 17).map (· + 1)).findSome? (readsBack magnitude point)
  let (coefficient, exponent) := found.getD (gridNeighbours magnitude.num.natAbs magnitude.den point 17 |> fun g => (g.1, g.2.2))
  stripZeros 20 coefficient exponent

/-- Digits with a decimal point after the first `point` of them. -/
def withPoint (ds : List Char) (point : Nat) : List Char := ds.take point ++ '.' :: ds.drop point

/-- The text of a magnitude with digits `ds` whose decimal point stands after `point` digits: positional from `1e-6` up to `1e21`,
with an exponent outside. -/
def layout (ds : List Char) (point : Int) : List Char :=
  let count : Int := ds.length
  if count ≤ point ∧ point ≤ 21 then ds ++ List.replicate (point - count).toNat '0'
  else if 0 < point ∧ point ≤ 21 then withPoint ds point.toNat
  else if -6 < point ∧ point ≤ 0 then ['0', '.'] ++ List.replicate (-point).toNat '0' ++ ds
  else
    let exponent := point - 1
    let mantissa := if ds.length = 1 then ds else withPoint ds 1
    mantissa ++ ['e', if exponent < 0 then '-' else '+'] ++ digits exponent.natAbs

/-- The fewest digits that read back as the number. -/
def text : Number → String
  | .nan => "NaN"
  | .infinite negative => if negative then "-Infinity" else "Infinity"
  | .finite q =>
    if q = 0 then "0"
    else
      let (coefficient, exponent) := shortest (if q < 0 then -q else q)
      let ds := digits coefficient
      String.ofList ((if q < 0 then ['-'] else []) ++ layout ds (ds.length + exponent))

instance : ToString Number := ⟨text⟩

/-- The multiple of `10 ^ -places` nearest to a magnitude, as a coefficient; a half goes up. -/
def fixedCoefficient (magnitude : Rat) (places : Nat) : Nat :=
  (magnitude * ((power 10 places : Nat) : Rat) + 1 / 2).floor.toNat

/-- The text with a fixed count of places; numbers from `1e21` on are written in full instead. -/
def fixed (x : Number) (places : Nat) : String :=
  match x with
  | .finite q =>
    let magnitude := if q < 0 then -q else q
    if ((power 10 21 : Nat) : Rat) ≤ magnitude then x.text
    else
      let ds := digits (fixedCoefficient magnitude places)
      let padded := List.replicate (places + 1 - ds.length) '0' ++ ds
      let body := if places = 0 then padded else withPoint padded (padded.length - places)
      String.ofList ((if q < 0 then ['-'] else []) ++ body)
  | other => other.text

/-- The number that the text with a fixed count of places reads back as. -/
def toPlaces (x : Number) (places : Nat) : Number :=
  match x with
  | .finite q =>
    let magnitude := if q < 0 then -q else q
    if ((power 10 21 : Nat) : Rat) ≤ magnitude then x
    else
      let rounded := mkRat (fixedCoefficient magnitude places) (power 10 places)
      ofRat (if q < 0 then -rounded else rounded)
  | other => other

/-- The multiple of `10 ^ -places` nearest to a number, found by scaling, rounding and scaling back in floating point. -/
def roundScaled (x : Number) (places : Nat) : Number :=
  let factor := ofNat (power 10 places)
  div (round (mul x factor)) factor

end QualityGate.Number
