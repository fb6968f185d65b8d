import QualityGate.Text.Blank
import QualityGate.Time

/-!
# Reading instants

A text is read as ISO text as far as it is that. Where it stops to be ISO text before any time of day, it is read on freely: numbers
before colons make up the time, other numbers the date, and words name months, halves of the day and zones. After the letter that
opens the time of an ISO text nothing but ISO text will do. A text that names no zone tells local time, unless it is an ISO date alone.
-/

namespace QualityGate

/-- The minutes that local time is ahead of universal time, by the local time in milliseconds. -/
abbrev Zone := Int → Int

/-- The zone that the program is taken to run in: local time is universal time. -/
def Zone.universal : Zone := fun _ => 0

end QualityGate

namespace QualityGate.Instant

/-- What a word of a date says. -/
inductive DateWord where
  | month (number : Nat)
  /-- A half of the day, by the hours before it. -/
  | half (hours : Nat)
  /-- A zone, by its hours from universal time; a single letter stands for universal time itself. -/
  | zone (hours : Int) (isLetter : Bool)
  /-- The letter between the date and the time of an ISO text. -/
  | separator
  | unknown
  deriving DecidableEq, Repr, Inhabited

namespace DateWord

def months : List String := ["jan", "feb", "mar", "apr", "may", "jun", "jul", "aug", "sep", "oct", "nov", "dec"]

def others : List (String × DateWord) :=
  [("am", half 0), ("pm", half 12), ("ut", zone 0 false), ("utc", zone 0 false), ("z", zone 0 true), ("gmt", zone 0 false),
   ("cdt", zone (-5) false), ("cst", zone (-6) false), ("edt", zone (-4) false), ("est", zone (-5) false),
   ("mdt", zone (-6) false), ("mst", zone (-7) false), ("pdt", zone (-7) false), ("pst", zone (-8) false), ("t", separator)]

/-- What a word says, in letters of either case; only the start of a month's name counts. -/
def ofLetters (letters : List Char) : DateWord :=
  let small := letters.map Char.toLower
  match months.findIdx? fun m => m.toList = small.take 3 with
  | some i => month (i + 1)
  | none => (others.lookup (String.ofList small)).getD unknown

end DateWord

/-- A part of a text. -/
inductive DateToken where
  | number (value length : Nat)
  | word (w : DateWord)
  | sign (c : Char)
  | blank
  | other
  deriving DecidableEq, Repr, Inhabited

/-- The value of digits; of those after the leading zeros nine count. -/
def valueOfDigits (digits : List Char) : Nat := Number.ofDigits 10 ((digits.dropWhile (· = '0')).take 9)

def isWordChar (c : Char) : Bool := 'A'.toNat ≤ c.toNat && !isBlank c

/-- What follows the parentheses that stand open. -/
def afterParentheses : Nat → List Char → List Char
  | 0, text => text
  | _, [] => []
  | depth + 1, c :: rest =>
    if c = ')' then afterParentheses depth rest
    else if c = '(' then afterParentheses (depth + 2) rest
    else afterParentheses (depth + 1) rest

theorem length_afterParentheses (depth : Nat) (text : List Char) : (afterParentheses depth text).length ≤ text.length := by
  induction text generalizing depth with
  | nil => cases depth <;> simp [afterParentheses]
  | cons c rest ih =>
    cases depth with
    | zero => simp [afterParentheses]
    | succ depth =>
      have := ih depth
      have := ih (depth + 2)
      have := ih (depth + 1)
      simp only [afterParentheses, List.length_cons]
      split
      · omega
      · split <;> omega

/-- The part at the start of a text, and what follows it. -/
def tokenAt (c : Char) (rest : List Char) : DateToken × List Char :=
  if c.isDigit then
    let digits := c :: rest.takeWhile Char.isDigit
    (.number (valueOfDigits digits) digits.length, rest.dropWhile Char.isDigit)
  else if ":-+.)".toList.contains c then (.sign c, rest)
  else if isWordChar c then
    (.word (DateWord.ofLetters (c :: rest.takeWhile isWordChar)), rest.dropWhile isWordChar)
  else if isBlank c then (.blank, rest)
  else if c = '(' then (.other, afterParentheses 1 rest)
  else (.other, rest)

theorem length_tokenAt (c : Char) (rest : List Char) : (tokenAt c rest).2.length ≤ rest.length := by
  unfold tokenAt
  split
  · exact (List.dropWhile_sublist _).length_le
  split
  · exact Nat.le_refl _
  split
  · exact (List.dropWhile_sublist _).length_le
  split
  · exact Nat.le_refl _
  split
  · exact length_afterParentheses 1 rest
  · exact Nat.le_refl _

/-- The parts of a text. -/
def dateTokens : List Char → List DateToken
  | [] => []
  | c :: rest => (tokenAt c rest).1 :: dateTokens (tokenAt c rest).2
termination_by text => text.length
decreasing_by
  have := length_tokenAt c rest
  simp only [List.length_cons]
  omega

/-- What has been read of a date and a time: their numbers in order, the month if it was named, and the zone. -/
structure Draft where
  date : List Int := []
  month : Option Nat := none
  time : List Nat := []
  half : Option Nat := none
  negative : Option Bool := none
  zoneHours : Option Nat := none
  zoneMinutes : Option Nat := none
  /-- A number has been read. -/
  started : Bool := false
  /-- All of the text is ISO text. -/
  iso : Bool := false
  deriving DecidableEq, Repr, Inhabited

def isMonth (n : Int) : Bool := 1 ≤ n && n ≤ 12

def isDay (n : Int) : Bool := 1 ≤ n && n ≤ 31

namespace Draft

/-- The year, the month and the day. Without a named month they come in this order when the first number is no day, and otherwise
the year comes last; a year of two digits is one from 1950 to 2049. -/
def date? (d : Draft) : Option (Int × Nat × Nat) :=
  match d.date ++ [1, 1] with
  | a :: b :: rest =>
    if d.date.isEmpty then none
    else
      let c := rest.headD 1
      let (year, month, day) := match d.month with
        | none => if d.iso || !isDay a then (a, b, c) else (c, a, b)
        | some m => if isDay a then (b, (m : Int), a) else (a, (m : Int), b)
      let full :=
        if d.iso then year
        else if 0 ≤ year ∧ year ≤ 49 then year + 2000
        else if 50 ≤ year ∧ year ≤ 99 then year + 1900
        else year
      if isMonth month && isDay day then some (full, month.toNat, day.toNat) else none
  | _ => none

/-- The milliseconds into the day. The end of a day is its 24th hour. -/
def time? (d : Draft) : Option Int :=
  let slot (i : Nat) : Nat := d.time.getD i 0
  let m := slot 1
  let s := slot 2
  let ms := slot 3
  let hour? := match d.half with
    | none => some (slot 0)
    | some hours => if slot 0 ≤ 12 then some (slot 0 % 12 + hours) else none
  hour?.bind fun h =>
    if (h < 24 ∧ m < 60 ∧ s < 60 ∧ ms < 1000) ∨ (h = 24 ∧ m = 0 ∧ s = 0 ∧ ms = 0) then
      some ((((h : Int) * 60 + m) * 60 + s) * 1000 + ms)
    else none

/-- The minutes from universal time at a time of the draft's zone. -/
def offset (d : Draft) (zone : Zone) (time : Int) : Int :=
  let minutes : Int := (d.zoneHours.getD 0 * 60 + d.zoneMinutes.getD 0 : Nat)
  match d.negative with
  | none => if d.iso && d.time.isEmpty then 0 else zone time
  | some negative => if negative then -minutes else minutes

/-- The instant that a draft amounts to. -/
def instant? (d : Draft) (zone : Zone) : Option Instant := do
  let (year, month, day) ← d.date?
  let time ← d.time?
  let shown := daysFromDate year month day * 86400000 + time
  let t := shown - d.offset zone shown * 60000
  if inRange t then some t else none

/-- The draft in a zone. -/
def inZone (d : Draft) (negative : Bool) (hours minutes : Nat) : Draft :=
  { d with negative := some negative, zoneHours := some hours, zoneMinutes := some minutes }

/-- One more number of the date. -/
def addDate? (d : Draft) (n : Nat) : Option Draft :=
  if d.date.length < 3 then some { d with date := d.date ++ [(n : Int)] } else none

/-- One more number of the time. -/
def addTime? (d : Draft) (n : Nat) : Option Draft :=
  if d.time.length < 4 then some { d with time := d.time ++ [n] } else none

/-- The last numbers of the time. -/
def closeTime (d : Draft) (numbers : List Nat) : Draft := { d with time := (d.time ++ numbers ++ [0, 0, 0, 0]).take 4 }

/-- Whether the time goes on with a number. -/
def expectsTime (d : Draft) (n : Nat) : Bool :=
  match d.time.length with
  | 1 | 2 => n < 60
  | 3 => n < 1000
  | _ => false

/-- Whether the zone goes on with a number of minutes. -/
def expectsMinutes (d : Draft) (n : Nat) : Bool := d.zoneHours.isSome && d.zoneMinutes.isNone && n < 60

def isUniversal (d : Draft) : Bool := d.zoneHours = some 0 && d.zoneMinutes = some 0

end Draft

/-- The milliseconds that a fraction of a second is, from its digits' value and their count. -/
def fractionMillis (value length : Nat) : Nat :=
  match length with
  | 1 => value * 100
  | 2 => value * 10
  | _ => value / power 10 (Nat.min length 9 - 3)

/-! ## ISO text -/

/-- How far the date of an ISO text goes: to its end, or to where the text has to be read freely. -/
abbrev IsoStage := Except (Draft × List DateToken)

/-- The year: four digits, or six with a sign. -/
def isoYear : List DateToken → IsoStage (Draft × List DateToken)
  | .sign '+' :: .number y 6 :: rest => .ok ({ date := [(y : Int)] }, rest)
  | .sign '-' :: .number y 6 :: rest =>
    if y = 0 then .error ({}, .sign '-' :: rest) else .ok ({ date := [-(y : Int)] }, rest)
  | .number y 4 :: rest => .ok ({ date := [(y : Int)] }, rest)
  | tokens => .error ({}, tokens)

/-- A month or a day of two digits after a hyphen, if there is a hyphen. -/
def isoPart (fits : Int → Bool) (d : Draft) : List DateToken → IsoStage (Draft × Bool × List DateToken)
  | .sign '-' :: .number n 2 :: rest =>
    if fits n then .ok ({ d with date := d.date ++ [(n : Int)] }, true, rest) else .error (d, .number n 2 :: rest)
  | .sign '-' :: rest => .error (d, rest)
  | tokens => .ok (d, false, tokens)

def isoDate (tokens : List DateToken) : IsoStage (Draft × List DateToken) := do
  let (d, afterYear) ← isoYear tokens
  let (d, hasMonth, afterMonth) ← isoPart isMonth d afterYear
  if hasMonth then
    let (d, _, afterDay) ← isoPart isDay d afterMonth
    return (d, afterDay)
  else return (d, afterMonth)

/-- The seconds and their fraction, if there are any; none after the 24th hour. -/
def isoSeconds (isEnd : Bool) : List DateToken → Option (List Nat × List DateToken)
  | .sign ':' :: .number s 2 :: .sign '.' :: .number value length :: rest =>
    if s < 60 && !(isEnd && (0 < s || 0 < value)) then some ([s, fractionMillis value length], rest) else none
  | .sign ':' :: .number _ 2 :: .sign '.' :: _ => none
  | .sign ':' :: .number s 2 :: rest => if s < 60 && !(isEnd && 0 < s) then some ([s], rest) else none
  | .sign ':' :: _ => none
  | tokens => some ([], tokens)

/-- The zone, which is all that may follow a time. -/
def isoZone (d : Draft) : List DateToken → Option Draft
  | [] => some d
  | [.word (.zone _ true)] => some (d.inZone false 0 0)
  | [.sign s, .number n 4] =>
    if (s = '+' || s = '-') && n / 100 < 24 && n % 100 < 60 then some (d.inZone (s = '-') (n / 100) (n % 100)) else none
  | [.sign s, .number h 2, .sign ':', .number m 2] =>
    if (s = '+' || s = '-') && h < 24 && m < 60 then some (d.inZone (s = '-') h m) else none
  | _ => none

/-- The time of an ISO text, to its end. -/
def isoTime (d : Draft) : List DateToken → Option Draft
  | .number h 2 :: .sign ':' :: .number m 2 :: rest =>
    if h ≤ 24 && m < 60 && !(h = 24 && 0 < m) then
      (isoSeconds (h = 24) rest).bind fun (seconds, after) => isoZone { d with time := [h, m] ++ seconds } after
    else none
  | _ => none

/-! ## Free text -/

/-- What may follow a time that is complete. -/
def mayFollowTime : List DateToken → Bool
  | [] | .blank :: _ | .word (.zone _ true) :: _ => true
  | .sign s :: _ => s = '+' || s = '-'
  | _ => false

/-- How many of the parts that follow a number or a month go with it: a hyphen does. -/
def hyphens (tokens : List DateToken) : Nat := if tokens.head? = some (.sign '-') then 1 else 0

/-- A number that no colon follows: minutes of the zone, the end of the time, or else a part of the date. -/
def readPlain (d : Draft) (n : Nat) (next : List DateToken) : Option (Draft × Nat) :=
  if d.expectsMinutes n then some ({ d with zoneMinutes := some n }, 0)
  else if d.expectsTime n then if mayFollowTime next then some (d.closeTime [n], 0) else none
  else (d.addDate? n).map (·, hyphens next)

/-- Reads a number, and tells how many of the parts after it went with it. -/
def readNumber (d : Draft) (n : Nat) : List DateToken → Option (Draft × Nat)
  | .sign ':' :: .sign ':' :: _ => if d.time.isEmpty then some ({ d with time := [n, 0] }, 2) else none
  | .sign ':' :: .sign '.' :: _ => (d.addTime? n).map (·, 2)
  | .sign ':' :: _ => (d.addTime? n).map (·, 1)
  | .sign '.' :: next =>
    if d.expectsTime n then
      match next with
      | .number value length :: _ => some (d.closeTime [n, fractionMillis value length], 2)
      | _ => none
    else (readPlain d n next).map fun (d, taken) => (d, taken + 1)
  | next => readPlain d n next

/-- Reads a sign as the start of an offset. -/
def readOffset (d : Draft) (negative : Bool) (next : List DateToken) : Option (Draft × Nat) :=
  let (n, length, taken) := match next with
    | .number n length :: _ => (n, length, 1)
    | _ => (0, 0, 0)
  let d := { d with started := true }
  if (next.drop taken).head? = some (.sign ':') then
    some ({ d with negative := some negative, zoneHours := some n, zoneMinutes := none }, taken)
  else if length = 1 ∨ length = 2 then some (d.inZone negative n 0, taken)
  else if length = 3 ∨ length = 4 then some (d.inZone negative (n / 100) (n % 100), taken)
  else none

/-- Words that say nothing may stand before the first number, but not right before it. -/
def skipWord (d : Draft) : List DateToken → Option (Draft × Nat)
  | .number .. :: _ => none
  | _ => if d.started then none else some (d, 0)

/-- Reads a part, and tells how many of the parts after it went with it. -/
def readToken (d : Draft) (t : DateToken) (next : List DateToken) : Option (Draft × Nat) :=
  match t with
  | .number n _ => readNumber { d with started := true } n next
  | .word (.half hours) => if d.time.isEmpty then skipWord d next else some ({ d with half := some hours }, 0)
  | .word (.month n) => some ({ d with month := some n }, hyphens next)
  | .word (.zone hours _) => if d.started then some (d.inZone (hours < 0) hours.natAbs 0, 0) else skipWord d next
  | .word _ => skipWord d next
  | .sign s =>
    if (s = '+' || s = '-') && (d.isUniversal || !d.time.isEmpty) then readOffset d (s = '-') next
    else if (s = '+' || s = '-' || s = ')') && d.started then none
    else some (d, 0)
  | .blank | .other => some (d, 0)

/-- Reads all parts. -/
def readTokens (d : Draft) : List DateToken → Option Draft
  | [] => some d
  | t :: rest =>
    match readToken d t rest with
    | none => none
    | some (next, taken) => readTokens next (rest.drop taken)
termination_by tokens => tokens.length
decreasing_by
  simp only [List.length_drop, List.length_cons]
  omega

/-- The draft that a text gives. -/
def draft? (tokens : List DateToken) : Option Draft :=
  match isoDate tokens with
  | .ok (d, []) => some { d with iso := true }
  | .ok (d, .word .separator :: rest) => isoTime { d with iso := true } rest
  | .ok (d, rest) | .error (d, rest) => readTokens { d with started := !d.date.isEmpty } rest

/-- The instant that a text names in a zone; a NUL ends the text. -/
def ofText? (text : String) (zone : Zone := .universal) : Option Instant :=
  (draft? (dateTokens (text.toList.takeWhile (· ≠ '\x00')))).bind (·.instant? zone)

end QualityGate.Instant
