import QualityGate.Text.Blank

/-!
# Tables of characters

A property of characters is written as a text of hexadecimal codes that lists stretches of neighbours, and is looked up by
bisection in the stretches it lists.
-/

namespace QualityGate

/-- Neighbouring codes, `count` of them from `first` on, that share an entry. -/
structure Stretch (α : Type) where
  first : Nat
  count : Nat
  entry : α

namespace Stretch

variable {α : Type}

/-- The stretch around a code among those at the places from `low` up to `high`, which stand in the order of their codes. -/
def search (table : Array (Stretch α)) (code low high : Nat) : Option (Stretch α) :=
  if low < high then
    let middle := (low + high) / 2
    match table[middle]? with
    | none => none
    | some s =>
      if code < s.first then search table code low middle
      else if code < s.first + s.count then some s
      else search table code (middle + 1) high
  else none
termination_by high - low

/-- The stretch around a code, in a table in the order of codes. -/
def find? (table : Array (Stretch α)) (code : Nat) : Option (Stretch α) := search table code 0 table.size

/-- The stretches in the order of their codes. -/
def sorted (stretches : List (Stretch α)) : Array (Stretch α) :=
  (stretches.mergeSort fun a b => a.first ≤ b.first).toArray

end Stretch

namespace CodeTable

/-- The value of a hexadecimal digit in capitals. -/
def digit (c : Char) : Nat := if c.isDigit then c.toNat - 48 else c.toNat - 55

/-- The number that hexadecimal digits write. -/
def hex (digits : List Char) : Nat := digits.foldl (fun n c => n * 16 + digit c) 0

/-- The words of a text, which blanks set apart. -/
def words (text : String) : List (List Char) :=
  let close (found : List (List Char)) (word : List Char) := if word.isEmpty then found else word.reverse :: found
  let step (state : List (List Char) × List Char) (c : Char) :=
    if isBlank c then (close state.1 state.2, []) else (state.1, c :: state.2)
  let (found, last) := text.toList.foldl step ([], [])
  (close found last).reverse

/-- The parts of a word before and after a sign; without the sign, the second part is missing. -/
def cut (sign : Char) (word : List Char) : List Char × Option (List Char) :=
  match word.dropWhile (· ≠ sign) with
  | [] => (word, none)
  | _ :: rest => (word.takeWhile (· ≠ sign), some rest)

/-- The codes of a word, which plus signs join. -/
def codes (word : List Char) : List Nat := (splitWhere (· = '+') word).map hex

/-- A word with the number after its star, which is one where there is no star. -/
def repeated (word : List Char) : List Char × Nat :=
  match cut '*' word with
  | (word, some count) => (word, hex count)
  | (word, none) => (word, 1)

/-- The stretches that a text of single codes and of ranges `first-last` lists, all with one entry. -/
def ranges {α : Type} (entry : α) (text : String) : List (Stretch α) :=
  (words text).map fun word =>
    match cut '-' word with
    | (first, some last) => ⟨hex first, hex last + 1 - hex first, entry⟩
    | (first, none) => ⟨hex first, 1, entry⟩

/-- A set of codes, from a text of single codes and of ranges. -/
def set (text : String) : Array (Stretch Unit) := Stretch.sorted (ranges () text)

/-- Whether a code is in a set. -/
def holds (table : Array (Stretch Unit)) (code : Nat) : Bool := (Stretch.find? table code).isSome

/-- The stretches of a text whose words stand for one code after the other: `@` and a code say where to go on, and a star
says for how many codes a word stands. -/
def consecutive {α : Type} (read : List Char → α) (text : String) : List (Stretch α) :=
  let step (state : List (Stretch α) × Nat) (word : List Char) :=
    match word with
    | '@' :: code => (state.1, hex code)
    | _ =>
      let (word, count) := repeated word
      (⟨state.2, count, read word⟩ :: state.1, state.2 + count)
  ((words text).foldl step ([], 0)).1.reverse

end CodeTable

end QualityGate
