import QualityGate.Json

/-!
# Violations

A violation is a finding about a place in a file: a lint finding, a compilation error, a debt marker or a function that is too
complex.
-/

namespace QualityGate

/-- How grave a violation is. -/
inductive Severity where
  | error
  | warning
  | note
  | info
  deriving DecidableEq, Repr, Inhabited

namespace Severity

def all : List Severity := [error, warning, note, info]

def name : Severity → String
  | error => "error"
  | warning => "warning"
  | note => "note"
  | info => "info"

def ofName? (text : String) : Option Severity := all.find? fun s => s.name = text

instance : Encode Severity := ⟨fun s => .str s.name⟩
instance : Decode Severity := ⟨fun j => j.str?.bind ofName?⟩

end Severity

/-- A finding about a place in a file. -/
structure Violation where
  file : String
  line : Int
  column : Int
  endLine : Int
  endColumn : Int
  lintName : String
  message : String
  severity : Severity
  suggestion : Option String
  machineApplicable : Bool
  deriving DecidableEq, Repr, Inhabited

instance : Encode Violation where
  encode v :=
    .present [("file", some (encode v.file)), ("line", some (encode v.line)), ("column", some (encode v.column)),
      ("endLine", some (encode v.endLine)), ("endColumn", some (encode v.endColumn)), ("lintName", some (encode v.lintName)),
      ("message", some (encode v.message)), ("severity", some (encode v.severity)), ("suggestion", v.suggestion.map encode),
      ("machineApplicable", some (encode v.machineApplicable))]

instance : Decode Violation where
  decode? j := do
    return { file := j.fieldD "file" "", line := j.fieldD "line" 0, column := j.fieldD "column" 0,
             endLine := j.fieldD "endLine" 0, endColumn := j.fieldD "endColumn" 0, lintName := j.fieldD "lintName" "",
             message := j.fieldD "message" "", severity := j.fieldD "severity" .info, suggestion := j.fieldD "suggestion" none,
             machineApplicable := j.fieldD "machineApplicable" false }

/-- A violation at the start of a line that spans up to the start of another one. -/
def Violation.atLines (file : String) (line endLine : Nat) (lintName message : String) (severity : Severity)
    (suggestion : String) : Violation where
  file := file
  line := line
  column := 1
  endLine := endLine
  endColumn := 1
  lintName := lintName
  message := message
  severity := severity
  suggestion := some suggestion
  machineApplicable := false

end QualityGate
