import QualityGate.Number.Decimal
import QualityGate.Selection

/-!
# Diagnostics and lint hotspots

Compilation errors are read from a compiler's short output. Lint findings are grouped by file; the hotspot is the file with the
most findings per line of code.
-/

namespace QualityGate

namespace Diagnostics

/-- An error on one line: file, line and column, perhaps a code, and the message. -/
def shortError : Pattern :=
  .all [.textStart, .group 1 (.times true 1 none .inLine), .lit ":", .group 2 (.many1 .digit), .lit ":",
    .group 3 (.many1 .digit), .lit ": error", .opt (.all [.lit "[", .group 4 (.many1 (.one Char.isAlphanum)), .lit "]"]),
    .lit ": ", .group 5 (.many .inLine), .textEnd]

/-- The error that a line reports. -/
def error? (line : List Char) : Option CompilationError := do
  let m ← shortError.find (trim line)
  let file ← m.group 1
  let row ← m.group 2
  let column ← m.group 3
  return { file := normalizePath (String.ofList file), line := Number.ofDigits 10 row, column := Number.ofDigits 10 column,
           code := (m.group 4).map String.ofList, message := String.ofList (trim ((m.group 5).getD [])) }

/-- The errors that a compiler's output reports. -/
def errors (output : String) : List CompilationError := (splitLines output.toList).filterMap error?

end Diagnostics

/-- A compilation error as a violation. -/
def CompilationError.toViolation (e : CompilationError) : Violation where
  file := e.file
  line := e.line
  column := e.column
  endLine := e.line
  endColumn := e.column
  lintName := "compilation_error"
  message := match e.code with
    | some code => if code = "" then e.message else s!"[{code}] {e.message}"
    | none => e.message
  severity := .error
  suggestion := some "Fix the compilation error before other refactoring"
  machineApplicable := false

/-- How densely a file is covered with findings. -/
structure LintDensity where
  defectDensity : Number
  totalViolations : Nat
  deriving DecidableEq, Inhabited

instance : Encode LintDensity where
  encode d := .obj [("defectDensity", encode d.defectDensity), ("totalViolations", encode d.totalViolations)]

instance : Decode LintDensity where
  decode? j := do
    return { defectDensity := j.fieldD "defectDensity" 0, totalViolations := j.fieldD "totalViolations" 0 }

/-- The file with the densest findings. -/
structure Hotspot where
  file : String
  defectDensity : Number
  totalViolations : Nat
  violations : List Violation
  deriving DecidableEq, Inhabited

instance : Encode Hotspot where
  encode h :=
    .obj [("file", encode h.file), ("defectDensity", encode h.defectDensity), ("totalViolations", encode h.totalViolations),
      ("violations", encode h.violations)]

instance : Decode Hotspot where
  decode? j := do
    return { file := j.fieldD "file" "", defectDensity := j.fieldD "defectDensity" 0,
             totalViolations := j.fieldD "totalViolations" 0, violations := j.fieldD "violations" [] }

/-- The lint findings of a project by file. -/
structure LintHotspot where
  totalProjectViolations : Nat
  summaryByFile : Record LintDensity
  hotspot : Option Hotspot
  allViolations : List Violation
  deriving DecidableEq, Inhabited

instance : Encode LintHotspot where
  encode h :=
    .obj [("totalProjectViolations", encode h.totalProjectViolations),
      ("summaryByFile", .obj (h.summaryByFile.map fun (file, d) => (file, encode d))), ("hotspot", encode h.hotspot),
      ("allViolations", encode h.allViolations)]

instance : Decode LintHotspot where
  decode? j := do
    return { totalProjectViolations := j.fieldD "totalProjectViolations" 0,
             summaryByFile := ((j.get? "summaryByFile").bind Json.decodeRecord?).getD [],
             hotspot := j.fieldD "hotspot" none, allViolations := j.fieldD "allViolations" [] }

namespace LintHotspot

/-- The findings of a project without any. -/
def empty : LintHotspot := ⟨0, [], none, []⟩

/-- The size that a file of unknown size counts with. -/
def defaultLines : Number := 100

/-- The findings of a file with their density. -/
def measure (sloc : Record Number) (unknown : Number) (file : String) (violations : List Violation) : Hotspot :=
  let lines := Number.max 1 (sloc.numberOr file unknown)
  ⟨file, (Number.ofNat violations.length / lines).toPlaces 6, violations.length, violations⟩

/-- The denser of the hotspot so far and one more file; the earlier one stays when they are equal. -/
def denser (best : Option Hotspot) (next : Hotspot) : Option Hotspot :=
  match best with
  | none => some next
  | some b => if b.defectDensity.lt next.defectDensity then some next else some b

/-- The lint findings of a project by file, with the densest file. -/
def of (violations : List Violation) (sloc : Record Number) (unknown : Number) : LintHotspot :=
  let groups := groupBy (·.file) (violations.map fun v => { v with file := normalizePath v.file })
  let measured := (sortBy (fun a b => Collation.order a.1 b.1) groups).map fun (file, vs) => measure sloc unknown file vs
  { totalProjectViolations := violations.length,
    summaryByFile := Record.assignAll (measured.map fun h => (h.file, ⟨h.defectDensity, h.totalViolations⟩)),
    hotspot := measured.foldl denser none, allViolations := groups.flatMap (·.2) }

end LintHotspot

end QualityGate
