import QualityGate.Number.Decimal
import QualityGate.Text.Blank

/-!
# Reading numbers

`Number.ofDecimalText` is the value of a decimal numeral, rounded once. `Number.ofText` reads a whole text as a number and
`Number.ofLeadingText` the longest numeral that a text starts with.
-/

namespace QualityGate.Number

/-- The value of a digit in some base, if the character is one. -/
def digitValue? (base : Nat) (c : Char) : Option Nat :=
  let value :=
    if '0' ≤ c ∧ c ≤ '9' then some (c.toNat - '0'.toNat)
    else if 'a' ≤ c ∧ c ≤ 'f' then some (c.toNat - 'a'.toNat + 10)
    else if 'A' ≤ c ∧ c ≤ 'F' then some (c.toNat - 'A'.toNat + 10)
    else none
  value.filter (· < base)

/-- The whole number that digits of some base stand for. -/
def ofDigits (base : Nat) (ds : List Char) : Nat :=
  ds.foldl (fun total c => total * base + (digitValue? base c).getD 0) 0

/-- The number nearest to `coefficient * 10 ^ exponent`. Far out of range the answer is zero or an infinity, with no power taken. -/
def ofScaled (coefficient : Nat) (exponent : Int) : Number :=
  if coefficient = 0 then .finite 0
  else
    let size : Int := (digits coefficient).length
    if 400 < size + exponent then .infinite false
    else if size + exponent < -400 then .finite 0
    else ofRat (tenScaled coefficient exponent)

/-- A sign and the text after it. -/
def takeSign : List Char → Bool × List Char
  | '-' :: rest => (true, rest)
  | '+' :: rest => (false, rest)
  | text => (false, text)

/-- The exponent part of a numeral, if one starts the text. -/
def takeExponent (text : List Char) : Int × List Char :=
  match text with
  | c :: rest =>
    if c = 'e' ∨ c = 'E' then
      let (negative, after) := takeSign rest
      let ds := after.takeWhile Char.isDigit
      if ds.isEmpty then (0, text)
      else
        let size : Int := ofDigits 10 ds
        (if negative then -size else size, after.dropWhile Char.isDigit)
    else (0, text)
  | [] => (0, text)

/-- An unsigned decimal numeral at the start of a text: digits with at most one point among or beside them, then an exponent. -/
def takeDecimal (text : List Char) : Option (Number × List Char) :=
  let whole := text.takeWhile Char.isDigit
  let afterWhole := text.dropWhile Char.isDigit
  let (fraction, afterFraction) :=
    match afterWhole with
    | '.' :: rest => (rest.takeWhile Char.isDigit, rest.dropWhile Char.isDigit)
    | _ => ([], afterWhole)
  if whole.isEmpty ∧ fraction.isEmpty then none
  else
    let (exponent, rest) := takeExponent afterFraction
    some (ofScaled (ofDigits 10 (whole ++ fraction)) (exponent - fraction.length), rest)

/-- A signed numeral or infinity at the start of a text. -/
def takeNumeral (text : List Char) : Option (Number × List Char) :=
  let (negative, rest) := takeSign text
  let signed (x : Number) : Number := if negative then neg x else x
  if "Infinity".toList.isPrefixOf rest then some (.infinite negative, rest.drop 8)
  else (takeDecimal rest).map fun (x, after) => (signed x, after)

/-- A numeral with the mark of its base: `0x`, `0o` or `0b` in either case. -/
def ofBasedText? : List Char → Option Number
  | '0' :: mark :: ds =>
    let base? : Option Nat :=
      if mark = 'x' ∨ mark = 'X' then some 16
      else if mark = 'o' ∨ mark = 'O' then some 8
      else if mark = 'b' ∨ mark = 'B' then some 2
      else none
    base?.bind fun base =>
      if ds.isEmpty ∨ ds.any (fun c => (digitValue? base c).isNone) then none
      else some (ofNat (ofDigits base ds))
  | _ => none

/-- The number that a whole text stands for: blanks around it do not count, an empty text is zero, and any other text that is no
numeral is not a number. -/
def ofText (text : String) : Number :=
  let body := trim text.toList
  if body.isEmpty then .finite 0
  else
    match ofBasedText? body with
    | some x => x
    | none =>
      match takeNumeral body with
      | some (x, []) => x
      | _ => .nan

/-- The number that the longest numeral at the start of a text stands for, after leading blanks. -/
def ofLeadingText (text : String) : Number :=
  match takeNumeral (trimStart text.toList) with
  | some (x, _) => x
  | none => .nan

/-- The number written by a text of decimal digits. -/
def ofDigitText (ds : List Char) : Number := ofScaled (ofDigits 10 ds) 0

end QualityGate.Number
