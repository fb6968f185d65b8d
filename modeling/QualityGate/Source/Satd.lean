import QualityGate.Source.Edits
import QualityGate.Source.Scan
import QualityGate.Text.Pattern
import QualityGate.Violation

/-!
# Self-admitted technical debt

A comment that holds a marker such as `TODO:` admits debt. Each line with one gives an item; removal takes away the lines that hold
nothing else and cuts trailing comments back to the code, and leaves behind the delimiter of a block comment that a removed line
opened or closed.
-/

namespace QualityGate

/-- How pressing an admitted debt is. -/
inductive DebtSeverity where
  | high
  | medium
  | low
  deriving DecidableEq, Repr, Inhabited

namespace DebtSeverity

def name : DebtSeverity → String
  | high => "high"
  | medium => "medium"
  | low => "low"

def ofName? (text : String) : Option DebtSeverity := [high, medium, low].find? fun s => s.name = text

/-- How much an item weighs in a score. -/
def weight : DebtSeverity → Nat
  | high => 3
  | medium => 2
  | low => 1

instance : Encode DebtSeverity := ⟨fun s => .str s.name⟩
instance : Decode DebtSeverity := ⟨fun j => j.str?.bind ofName?⟩

end DebtSeverity

/-- The kinds of debt. -/
inductive DebtCategory where
  | design
  | defect
  | requirement
  | refactor
  | quality
  deriving DecidableEq, Repr, Inhabited

namespace DebtCategory

def name : DebtCategory → String
  | design => "design"
  | defect => "defect"
  | requirement => "requirement"
  | refactor => "refactor"
  | quality => "quality"

def ofName? (text : String) : Option DebtCategory :=
  [design, defect, requirement, refactor, quality].find? fun c => c.name = text

instance : Encode DebtCategory := ⟨fun c => .str c.name⟩
instance : Decode DebtCategory := ⟨fun j => j.str?.bind ofName?⟩

end DebtCategory

/-- A line that admits debt. -/
structure DebtItem where
  file : String
  line : Nat
  marker : String
  category : DebtCategory
  severity : DebtSeverity
  text : String
  deriving DecidableEq, Repr, Inhabited

instance : Encode DebtItem where
  encode i :=
    .obj [("file", encode i.file), ("line", encode i.line), ("marker", encode i.marker), ("category", encode i.category),
      ("severity", encode i.severity), ("text", encode i.text)]

instance : Decode DebtItem where
  decode? j := do
    return { file := j.fieldD "file" "", line := j.fieldD "line" 0, marker := j.fieldD "marker" "",
             category := j.fieldD "category" .requirement, severity := j.fieldD "severity" .low, text := j.fieldD "text" "" }

namespace Satd

/-- The markers with the kind of debt and how pressing it is. -/
def markers : List (String × DebtCategory × DebtSeverity) :=
  [("TODO", .requirement, .low), ("FIXME", .defect, .medium), ("HACK", .design, .high), ("XXX", .quality, .high),
   ("BUG", .defect, .high), ("KLUDGE", .design, .medium), ("REFACTOR", .refactor, .medium)]

/-- A marker word, perhaps with a remark in parentheses, and a colon. -/
def markerPattern : Pattern :=
  .all [.wordEdge, .group 1 (.words (markers.map (·.1))), .opt (.all [.lit "(", .many (.butNot ')'), .lit ")"]), .lit ":"]

/-- The first marker in a text. -/
def marker? (text : List Char) : Option String :=
  ((markerPattern.find text).bind (·.group 1)).map String.ofList

/-- Whether a text holds a marker. -/
def isMarked (text : List Char) : Bool := markerPattern.occurs text

/-- The debt that a scanned line admits. -/
def itemOf? (file : String) (line : Line) : Option DebtItem := do
  let comment ← line.comment
  let marker ← marker? comment
  let (category, severity) ← markers.lookup marker
  return { file, line := line.number, marker, category, severity, text := String.ofList (trim line.text) }

/-- What becomes of a marked line that holds no code. -/
def editBare (text : List Char) : LineEdit :=
  let body := trim text
  let opens := "/*".toList.isPrefixOf body
  let closes := contains body "*/".toList
  if opens && !closes then .replace (leadingBlanks text ++ ['/', '*'])
  else if !opens && closes then .replace (leadingBlanks text ++ ['*', '/'])
  else .drop

/-- What becomes of a marked line with code whose trailing comment opens at a place; nothing when the marker stands elsewhere. -/
def editTail? (text : List Char) (commentAt : Option Nat) : Option LineEdit := do
  let at_ ← commentAt
  let tail := text.drop at_
  if !isMarked tail then none
  else
    let kept := trimEnd (text.take at_)
    if "/*".toList.isPrefixOf tail && !contains tail "*/".toList then some (.replace (kept ++ [' ', '/', '*']))
    else some (.replace kept)

/-- What becomes of a scanned line, if it changes. -/
def editOf? (line : Line) : Option LineEdit := do
  let comment ← line.comment
  if !isMarked comment then none
  else if line.hasCode then editTail? line.text line.commentAt
  else some (editBare line.text)

/-- The edits that take the markers out of scanned lines. -/
def editsOf (lines : List Line) : LineEdits :=
  lines.filterMap fun line => (editOf? line).map fun edit => ((line.number : Int), edit)

end Satd

/-- The debt that a source admits, one item per line. -/
def detectSatd (t : Toolchain) (file : String) (content : List Char) : List DebtItem :=
  (scan t content).filterMap (Satd.itemOf? file)

/-- The edits that take the markers out of a source. -/
def satdEdits (t : Toolchain) (content : List Char) : LineEdits := Satd.editsOf (scan t content)

/-- The source without its markers. -/
def removeSatd (t : Toolchain) (content : List Char) : List Char := (satdEdits t content).apply content

/-- An admitted debt as a violation. -/
def DebtItem.toViolation (item : DebtItem) : Violation :=
  .atLines item.file item.line item.line "satd_item" s!"Self-admitted technical debt: {item.text}" .warning
    "Remove or address technical debt"

end QualityGate
