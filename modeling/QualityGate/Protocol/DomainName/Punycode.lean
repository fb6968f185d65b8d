/-!
# Punycode

A text in any letters is written with the letters, digits and hyphens of ASCII: its ASCII characters stand first, and what follows
the last hyphen are numbers that say which other characters stand where. A number ends at its first digit below a threshold, and
the thresholds adapt to the numbers read so far.
-/

namespace QualityGate.Punycode

/-- The value of a digit: the letters are the digits below 26, the figures those from there on. -/
def digit? (c : Char) : Option Nat :=
  if c.isLower then some (c.toNat - 'a'.toNat)
  else if c.isDigit then some (c.toNat - '0'.toNat + 26)
  else none

/-- The value from which on a digit is not the last one of its number; places go up in steps of 36. -/
def threshold (place bias : Nat) : Nat :=
  if place ≤ bias then 1 else if bias + 26 ≤ place then 26 else place - bias

/-- Divides a number by 35 until it is small, and counts 36 for each time. -/
def shrink (n counted : Nat) : Nat × Nat :=
  if 455 < n then shrink (n / 35) (counted + 36) else (n, counted)
termination_by n
decreasing_by exact Nat.div_lt_self (by omega) (by omega)

/-- The bias after a number, when so many characters are placed. -/
def adapt (number characters : Nat) (isFirst : Bool) : Nat :=
  let halved := if isFirst then number / 700 else number / 2
  let (small, counted) := shrink (halved + halved / characters) 0
  counted + 36 * small / (small + 38)

/-- The largest number that is read. -/
def limit : Nat := 0x7FFFFFFF

/-- Reads a number on top of a sum: the new sum and the text after the number. -/
def number? (bias place weight sum : Nat) : List Char → Option (Nat × List Char)
  | [] => none
  | c :: rest =>
    match digit? c with
    | none => none
    | some d =>
      let sum := sum + d * weight
      let next := weight * (36 - threshold place bias)
      if limit < sum then none
      else if d < threshold place bias then some (sum, rest)
      else if limit < next then none
      else number? bias (place + 36) next sum rest

/-- A number takes up some of the text. -/
theorem length_of_number? {bias place weight sum value : Nat} {text rest : List Char}
    (h : number? bias place weight sum text = some (value, rest)) : rest.length < text.length := by
  induction text generalizing place weight sum with
  | nil => simp [number?] at h
  | cons c text ih =>
    rw [number?] at h
    split at h
    · simp at h
    · simp only at h
      split at h
      · simp at h
      · split at h
        · simp only [Option.some.injEq, Prod.mk.injEq] at h
          simp [← h.2]
        · split at h
          · simp at h
          · have := ih h
            simp only [List.length_cons]
            omega

/-- Puts characters into a text: each number says how far to go on from the place after the last one, over the places of one
character after the other. -/
def place? (bias code place : Nat) (placed : List Nat) (text : List Char) : Option (List Nat) :=
  match _h : number? bias 36 1 place text with
  | none => if text.isEmpty then some placed else none
  | some (sum, rest) =>
    let count := placed.length + 1
    let code := code + sum / count
    place? (adapt (sum - place) count (place = 0)) code (sum % count + 1) (placed.insertIdx (sum % count) code) rest
termination_by text.length
decreasing_by exact length_of_number? _h

/-- The characters that a text stands for. -/
def decode? (text : List Char) : Option (List Nat) :=
  if text.head? = some '-' then none
  else
    let numbers := (text.reverse.takeWhile (· ≠ '-')).reverse
    place? 72 0x80 0 ((text.take (text.length - numbers.length - 1)).map Char.toNat) numbers

end QualityGate.Punycode
