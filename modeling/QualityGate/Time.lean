import QualityGate.Number.Reading

/-!
# Instants

An instant is a count of milliseconds since the start of 1970, universal time. Instants are written as ISO text.
-/

namespace QualityGate

/-- Milliseconds since the start of 1970. -/
abbrev Instant := Int

namespace Instant

/-- The count of days from the start of 1970 to a date of the Gregorian calendar. -/
def daysFromDate (year : Int) (month day : Nat) : Int :=
  let y := if month ≤ 2 then year - 1 else year
  let era := y.fdiv 400
  let yearOfEra := y - era * 400
  let shifted : Int := if month > 2 then (month : Int) - 3 else (month : Int) + 9
  let dayOfYear := (153 * shifted + 2) / 5 + (day : Int) - 1
  let dayOfEra := yearOfEra * 365 + yearOfEra / 4 - yearOfEra / 100 + dayOfYear
  era * 146097 + dayOfEra - 719468

/-- The date that is some days after the start of 1970: year, month and day. -/
def dateFromDays (days : Int) : Int × Nat × Nat :=
  let z := days + 719468
  let era := z.fdiv 146097
  let dayOfEra := z - era * 146097
  let yearOfEra := (dayOfEra - dayOfEra / 1460 + dayOfEra / 36524 - dayOfEra / 146096) / 365
  let dayOfYear := dayOfEra - (365 * yearOfEra + yearOfEra / 4 - yearOfEra / 100)
  let shifted := (5 * dayOfYear + 2) / 153
  let day := dayOfYear - (153 * shifted + 2) / 5 + 1
  let month := if shifted < 10 then shifted + 3 else shifted - 9
  let year := yearOfEra + era * 400 + (if month ≤ 2 then 1 else 0)
  (year, month.toNat, day.toNat)

/-- The bounds of instants that have a calendar date in the program: a hundred million days either way. -/
def inRange (t : Int) : Bool := -8640000000000000 ≤ t && t ≤ 8640000000000000

/-- Digits padded with zeros to a width. -/
def pad (width n : Nat) : String :=
  let ds := Number.digits n
  String.ofList (List.replicate (width - ds.length) '0' ++ ds)

/-- A year of four digits, or of six with a sign when four do not suffice. -/
def yearText (year : Int) : String :=
  if 0 ≤ year ∧ year ≤ 9999 then pad 4 year.toNat
  else (if year < 0 then "-" else "+") ++ pad 6 year.natAbs

/-- The ISO text of an instant, with milliseconds. -/
def text (t : Instant) : String :=
  let (year, month, day) := dateFromDays (t.fdiv 86400000)
  let ms := (t.fmod 86400000).toNat
  let seconds := ms / 1000
  s!"{yearText year}-{pad 2 month}-{pad 2 day}T{pad 2 (seconds / 3600)}:{pad 2 (seconds / 60 % 60)}:{pad 2 (seconds % 60)}." ++
    pad 3 (ms % 1000) ++ "Z"

end Instant

end QualityGate
