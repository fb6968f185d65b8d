import QualityGate.Text.Blank

/-!
# Line edits

An edit of a text names lines, counted from 1, and says for each what stands in its place: nothing, or another text.
-/

namespace QualityGate

/-- What becomes of a line: it goes, or another text takes its place. -/
inductive LineEdit where
  | drop
  | replace (text : List Char)
  deriving DecidableEq, Repr

/-- Edits by line number; of two for one line the later one holds. -/
abbrev LineEdits := List (Int × LineEdit)

namespace LineEdits

/-- The edit of a line. -/
def get? (edits : LineEdits) (line : Int) : Option LineEdit := edits.lookup line

/-- The edits with one set for a line, which keeps its place in the list. -/
def set (edits : LineEdits) (line : Int) (edit : LineEdit) : LineEdits :=
  if (edits.get? line).isSome then edits.map fun (n, e) => if n = line then (n, edit) else (n, e)
  else edits ++ [(line, edit)]

/-- The lines from a number on with the edits carried out. -/
def applyFrom (edits : LineEdits) (number : Nat) : List (List Char) → List (List Char)
  | [] => []
  | text :: rest =>
    match edits.get? number with
    | none => text :: applyFrom edits (number + 1) rest
    | some .drop => applyFrom edits (number + 1) rest
    | some (.replace other) => other :: applyFrom edits (number + 1) rest

/-- The text with the edits carried out. -/
def apply (edits : LineEdits) (content : List Char) : List Char := joinLines (edits.applyFrom 1 (splitLines content))

end LineEdits

end QualityGate
