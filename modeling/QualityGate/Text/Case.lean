import QualityGate.Text.Case.Table
import QualityGate.Text.CodeTable

/-!
# Letter case

Small and capital forms of letters. A capital may have several small letters for its form and the other way round, and the Greek
sigma has a form of its own at the end of a word.
-/

namespace QualityGate

namespace Case

/-- The other form of letters that stand `step` apart: the form of the first one, in one or several letters. -/
structure Form where
  step : Nat
  form : List Nat

/-- Reads the forms of a table. -/
def forms (text : String) : Array (Stretch Form) :=
  Stretch.sorted <| (CodeTable.words text).map fun word =>
    let (letters, form) := CodeTable.cut ':' word
    let (letters, step) := CodeTable.cut '/' letters
    let step := (step.map CodeTable.hex).getD 1
    let (letter, count) := CodeTable.repeated letters
    ⟨CodeTable.hex letter, (count - 1) * step + 1, step, CodeTable.codes (form.getD [])⟩

@[irreducible] def small : Array (Stretch Form) := forms Table.small

@[irreducible] def capital : Array (Stretch Form) := forms Table.capital

/-- The letters that have a case but no other form. -/
@[irreducible] def unpaired : Array (Stretch Unit) := CodeTable.set Table.unpaired

/-- The signs within words that have no case. -/
@[irreducible] def skipped : Array (Stretch Unit) := CodeTable.set Table.skipped

/-- The form of a letter in a table, if it has one there. -/
def form? (table : Array (Stretch Form)) (c : Char) : Option (List Char) :=
  match Stretch.find? table c.toNat with
  | none => none
  | some s =>
    let distance := c.toNat - s.first
    if distance % s.entry.step ≠ 0 then none
    else
      match s.entry.form with
      | [letter] => some [Char.ofNat (letter + distance)]
      | letters => some (letters.map Char.ofNat)

end Case

/-- The small form of a letter. -/
def lowerChars (c : Char) : List Char :=
  if c.toNat < 0x80 then [c.toLower] else (Case.form? Case.small c).getD [c]

/-- The capital form of a letter. -/
def upperChars (c : Char) : List Char :=
  if c.toNat < 0x80 then [c.toUpper] else (Case.form? Case.capital c).getD [c]

/-- Whether a character is a letter of one of the two cases. -/
def isCased (c : Char) : Bool :=
  lowerChars c ≠ [c] || upperChars c ≠ [c] || CodeTable.holds Case.unpaired c.toNat

/-- Whether the first character that is not a sign within a word is a letter with a case. -/
def meetsLetter (text : List Char) : Bool :=
  match text.dropWhile fun c => CodeTable.holds Case.skipped c.toNat with
  | c :: _ => isCased c
  | [] => false

/-- The small letters of a text, given what stands before it in reverse. -/
def loweredAfter (before : List Char) : List Char → List Char
  | [] => []
  | c :: rest =>
    let small := if c = 'Σ' && meetsLetter before && !meetsLetter rest then ['ς'] else lowerChars c
    small ++ loweredAfter (c :: before) rest

/-- The text in small letters. -/
def lowered (text : List Char) : List Char := loweredAfter [] text

/-- The text in capitals. -/
def uppered (text : List Char) : List Char := text.flatMap upperChars

namespace Text

def lower (text : String) : String := String.ofList (lowered text.toList)

def upper (text : String) : String := String.ofList (uppered text.toList)

end Text

end QualityGate
