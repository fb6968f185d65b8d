import QualityGate.Count

/-!
# Numbers

A measurement, a percentage or a score is a 53-bit floating-point number. It is kept as the exact rational that it stands for,
beside the three values that are no rational, so an operation is the exact operation on rationals followed by one rounding
(`Number.ofRat`: to the nearest representable value, a tie to the even one). Zero has no sign.
-/

namespace QualityGate

/-- A floating-point number: an exact rational, or one of the three values beyond the rationals. -/
inductive Number where
  | finite (value : Rat)
  | nan
  | infinite (negative : Bool)
  deriving DecidableEq, Inhabited

namespace Number

/-- The exponent of two that puts `num / den` between `2 ^ 52` and `2 ^ 53`, never below the smallest spacing. -/
def spacing (num den : Nat) : Int :=
  let guess : Int := (num.log2 : Int) - (den.log2 : Int) - 52
  let scaledNum := num * power 2 (-guess).toNat
  let scaledDen := den * power 2 guess.toNat
  let exponent := if scaledNum < scaledDen * power 2 52 then guess - 1 else guess
  max exponent (-1074)

/-- The quotient rounded to the nearest whole number, a half to the even neighbour. -/
def nearestEven (num den : Nat) : Nat :=
  let quotient := num / den
  let twice := 2 * (num % den)
  if twice < den then quotient
  else if den < twice then quotient + 1
  else if quotient % 2 = 0 then quotient else quotient + 1

/-- A power of two with an exponent of either sign. -/
def twoPow (exponent : Int) : Rat :=
  if exponent < 0 then mkRat 1 (power 2 (-exponent).toNat) else ((power 2 exponent.toNat : Nat) : Rat)

/-- The magnitude `num / den` rounded to a representable value, `none` beyond the largest one. -/
def roundMagnitude (num den : Nat) : Option Rat :=
  if num = 0 then some 0
  else
    let exponent := spacing num den
    let mantissa := nearestEven (num * power 2 (-exponent).toNat) (den * power 2 exponent.toNat)
    if power 2 1024 ≤ mantissa * power 2 exponent.toNat then none
    else some ((mantissa : Rat) * twoPow exponent)

/-- The number nearest to an exact value. -/
def ofRat (q : Rat) : Number :=
  match roundMagnitude q.num.natAbs q.den with
  | some magnitude => .finite (if q.num < 0 then -magnitude else magnitude)
  | none => .infinite (q.num < 0)

/-- The number nearest to a whole number. -/
def ofInt (i : Int) : Number := ofRat (i : Rat)

/-- The number nearest to a count. -/
def ofNat (n : Nat) : Number := ofInt n

instance (n : Nat) : OfNat Number n := ⟨ofNat n⟩

/-- A decimal constant of the program, rounded once. -/
def ofDecimal (mantissa : Int) (places : Nat) : Number := ofRat (mkRat mantissa (power 10 places))

instance : OfScientific Number where
  ofScientific mantissa negativeExponent exponent :=
    if negativeExponent then ofDecimal mantissa exponent else ofInt (mantissa * power 10 exponent)

def isNan : Number → Bool
  | .nan => true
  | _ => false

def isFinite : Number → Bool
  | .finite _ => true
  | _ => false

/-- The exact value of a finite number. -/
def toRat? : Number → Option Rat
  | .finite q => some q
  | _ => none

def neg : Number → Number
  | .finite q => .finite (-q)
  | .nan => .nan
  | .infinite negative => .infinite (!negative)

/-- Infinities of opposite sign have no sum. -/
def add : Number → Number → Number
  | .finite a, .finite b => ofRat (a + b)
  | .nan, _ | _, .nan => .nan
  | .infinite s, .infinite t => if s = t then .infinite s else .nan
  | .infinite s, .finite _ | .finite _, .infinite s => .infinite s

def sub (a b : Number) : Number := add a (neg b)

/-- Zero times an infinity has no value. -/
def mul : Number → Number → Number
  | .finite a, .finite b => ofRat (a * b)
  | .nan, _ | _, .nan => .nan
  | .infinite s, .infinite t => .infinite (s != t)
  | .infinite s, .finite a | .finite a, .infinite s => if a = 0 then .nan else .infinite (s != decide (a < 0))

/-- A division by zero gives an infinity of the dividend's sign, and zero by zero has no value. -/
def div : Number → Number → Number
  | .finite a, .finite b =>
    if b = 0 then (if a = 0 then .nan else .infinite (a < 0)) else ofRat (a / b)
  | .nan, _ | _, .nan => .nan
  | .infinite _, .infinite _ => .nan
  | .infinite s, .finite b => .infinite (s != decide (b < 0))
  | .finite _, .infinite _ => .finite 0

instance : Add Number := ⟨add⟩
instance : Sub Number := ⟨sub⟩
instance : Mul Number := ⟨mul⟩
instance : Div Number := ⟨div⟩
instance : Neg Number := ⟨neg⟩

/-- Strictly smaller; nothing compares with a value that is not a number. -/
def lt : Number → Number → Bool
  | .finite a, .finite b => a < b
  | .nan, _ | _, .nan => false
  | .infinite s, .infinite t => s && !t
  | .infinite s, .finite _ => s
  | .finite _, .infinite s => !s

/-- Equal as numbers: a value that is not a number differs also from itself. -/
def same : Number → Number → Bool
  | .nan, _ | _, .nan => false
  | a, b => a = b

def le (a b : Number) : Bool := lt a b || same a b

/-- The larger of two numbers, not a number if either is not. -/
def max : Number → Number → Number
  | .nan, _ | _, .nan => .nan
  | a, b => if lt a b then b else a

/-- The smaller of two numbers, not a number if either is not. -/
def min : Number → Number → Number
  | .nan, _ | _, .nan => .nan
  | a, b => if lt b a then b else a

/-- The nearest whole number, a half upwards. -/
def round : Number → Number
  | .finite q => ofInt (q + 1 / 2).floor
  | x => x

/-- The nearest whole number that is not smaller. -/
def ceil : Number → Number
  | .finite q => ofInt q.ceil
  | x => x

/-- The nearest whole number that is not larger. -/
def floor : Number → Number
  | .finite q => ofInt q.floor
  | x => x

/-- The nearest whole number toward zero. An infinity counts as a number beyond all finite ones, and what is no number as zero. -/
def truncate : Number → Int
  | .finite q => q.num.tdiv q.den
  | .nan => 0
  | .infinite negative => if negative then -(power 2 1024 : Int) else (power 2 1024 : Int)

/-- The whole number a number is, if it is one. -/
def toInt? : Number → Option Int
  | .finite q => if q.den = 1 then some q.num else none
  | _ => none

/-- The count a number is, if it is one. -/
def toNat? (x : Number) : Option Nat :=
  match x.toInt? with
  | some (.ofNat n) => some n
  | _ => none

/-- The order of ascending values; values that do not compare count as equal. -/
def order (a b : Number) : Ordering :=
  if lt a b then .lt else if lt b a then .gt else .eq

/-- The sum of a list, from left to right. -/
def sum (values : List Number) : Number := values.foldl add 0

end Number

end QualityGate
