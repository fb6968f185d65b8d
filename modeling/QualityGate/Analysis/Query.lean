import QualityGate.Glob
import QualityGate.Protocol.Message
import QualityGate.Schema
import QualityGate.Toolchain

/-!
# What is asked of an analysis

The kinds of analyses, what each takes besides the project and the form of its answer, and how a request's body is read.
-/

namespace QualityGate

/-- Something that only some analyses take. -/
inductive QueryParameter where
  /-- The complexity above which a function counts as too complex. -/
  | threshold
  /-- How many days of history count. -/
  | days
  /-- A file to limit the analysis to. -/
  | file
  deriving DecidableEq, Repr, Inhabited

inductive AnalysisKind where
  | complexity
  | satd
  | deadCode
  | churn
  | tdg
  | deepContext
  | lintHotspot
  | compilationErrors
  | coverage
  deriving DecidableEq, Repr, Inhabited

namespace AnalysisKind

/-- All kinds, in the order in which they are offered. -/
def all : List AnalysisKind :=
  [complexity, satd, deadCode, churn, tdg, deepContext, lintHotspot, compilationErrors, coverage]

def name : AnalysisKind → String
  | complexity => "complexity"
  | satd => "satd"
  | deadCode => "dead-code"
  | churn => "churn"
  | tdg => "tdg"
  | deepContext => "deep-context"
  | lintHotspot => "lint-hotspot"
  | compilationErrors => "compilation-errors"
  | coverage => "coverage"

def ofName? (text : String) : Option AnalysisKind := all.find? fun k => k.name = text

def description : AnalysisKind → String
  | complexity => "Cyclomatic and cognitive complexity per function"
  | satd => "Self-admitted technical debt comments"
  | deadCode => "Unreferenced functions and types and unreachable statements"
  | churn => "Git change frequency per file"
  | tdg => "Technical debt gradient per file"
  | deepContext => "Aggregated project context with defect scores and recommendations"
  | lintHotspot => "Clippy violations grouped by file with the densest file as hotspot"
  | compilationErrors => "Compiler errors grouped by file"
  | coverage => "Line coverage for the project or one file"

def parameters : AnalysisKind → List QueryParameter
  | complexity => [.threshold]
  | churn => [.days]
  | tdg | deepContext => [.threshold, .days]
  | coverage => [.file]
  | _ => []

end AnalysisKind

/-- What is asked. -/
structure Query where
  projectPath : String
  format : OutputFormat
  filters : Filters
  toolchain : Option Toolchain
  threshold : Number
  days : Number
  file : Option String
  deriving Inhabited

namespace Query

def defaultThreshold : Number := 10

def defaultDays : Number := 30

/-- Patterns as a list, or as a text with commas between them; blanks around them do not count. -/
def patterns : Check (List String) := fun j =>
  let texts := Check.optional (Check.either ((Check.list Check.text ·)) fun j => (Check.text j).map (Text.split · ",")) j
  texts.map fun given => ((given.getD []).map fun p => String.ofList (trim p.toList)).filter (· ≠ "")

def formatCheck : Check OutputFormat := Check.orElse (Check.oneOf OutputFormat.names OutputFormat.ofName?) .json

def toolchainCheck : Check (Option Toolchain) :=
  Check.optional (Check.oneOf (Toolchain.all.map Toolchain.name) Toolchain.ofName?)

/-- A whole number above zero, however it is written. -/
def positiveWhole : Check Number := Check.positive (Check.whole Check.numeral)

/-- A parameter that is only looked at when the analysis takes it. -/
def parameter {α : Type} (kind : Option AnalysisKind) (p : QueryParameter) (default : α) (read : Checked α) : Checked α :=
  if (kind.map (·.parameters)).any (·.contains p) then read else .ok default

/-- The body of a request for an analysis; with no kind, what all analyses take. -/
def check (kind : Option AnalysisKind) : Check Query := Check.object fun q =>
  (fun path format include_ exclude toolchain threshold days file =>
      ⟨path, format, ⟨include_, exclude⟩, toolchain, threshold, days, file⟩)
    <$> Check.field q "project_path" (Check.nonempty Check.text) <*> Check.field q "format" formatCheck
    <*> Check.field q "include" patterns <*> Check.field q "exclude" patterns <*> Check.field q "toolchain" toolchainCheck
    <*> parameter kind .threshold defaultThreshold
      (Check.field q "threshold" (Check.orElse positiveWhole defaultThreshold))
    <*> parameter kind .days defaultDays (Check.field q "days" (Check.orElse positiveWhole defaultDays))
    <*> parameter kind .file none (Check.field q "file" (Check.optional (Check.nonempty Check.text)))

/-- What all analyses take. -/
instance : Encode Query where
  encode q :=
    .present [("project_path", some (encode q.projectPath)), ("format", some (encode q.format)),
      ("include", some (encode q.filters.include_)), ("exclude", some (encode q.filters.exclude)),
      ("toolchain", q.toolchain.map encode)]

/-! ## The schema that clients see -/

def typed (type : String) (more : List (String × Json)) : Json := .obj (("type", .str type) :: more)

def formatSchema : Json := typed "string" [("enum", .strings OutputFormat.names), ("default", .str "json")]

def patternsSchema : Json :=
  typed "array" [("items", typed "string" []),
    ("description", .str "Glob patterns; a comma-separated string is also accepted")]

/-- The name and the schema of a parameter. -/
def parameterSchema : QueryParameter → String × Json
  | .threshold => ("threshold", typed "integer" [("minimum", .nat 1), ("default", .num defaultThreshold)])
  | .days =>
    ("days", typed "integer" [("minimum", .nat 1), ("default", .num defaultDays), ("description", .str "History window in days")])
  | .file => ("file", typed "string" [("description", .str "Limit coverage to one file")])

/-- The schema of a kind of analysis. -/
def schema (kind : AnalysisKind) : Json :=
  typed "object" [
    ("properties", .obj ([
      ("project_path", typed "string" [("description", .str "Project root, relative to the server working directory")]),
      ("format", formatSchema), ("include", patternsSchema), ("exclude", patternsSchema),
      ("toolchain", typed "string" [("enum", .strings (Toolchain.all.map Toolchain.name))])] ++
        kind.parameters.map parameterSchema)),
    ("required", .strings ["project_path"])]

end Query

end QualityGate
