import QualityGate.Issue
import QualityGate.Json.KeyCase
import QualityGate.Json.Printer
import QualityGate.Plan
import QualityGate.Text.Path

/-!
# Rewrite requests

What an agent is asked when a file still has findings: its text, its section of the project context, the findings, and where the
answer goes. A printed request stands between two sentinel lines; no line between them is a sentinel, because line feeds inside the
texts of a request are escaped.
-/

namespace QualityGate

/-- A finding as an agent is told of it. -/
structure RequestViolation where
  line : Int
  column : Int
  lint : String
  message : String
  severity : Severity
  fixStrategy : String
  suggestion : Option String
  deriving DecidableEq, Repr, Inhabited

instance : Encode RequestViolation where
  encode v :=
    .present [("line", some (encode v.line)), ("column", some (encode v.column)), ("lint", some (encode v.lint)),
      ("message", some (encode v.message)), ("severity", some (encode v.severity)),
      ("fixStrategy", some (encode v.fixStrategy)), ("suggestion", v.suggestion.map encode)]

/-- A file that an answer may fill. -/
structure OutputFile where
  path : String
  description : String
  deriving DecidableEq, Repr, Inhabited

instance : Encode OutputFile := ⟨fun f => .obj [("path", encode f.path), ("description", encode f.description)]⟩

/-- The coverage of a file and the one that it has to reach. -/
structure RequestCoverage where
  current : Number
  target : Number
  needsTests : Bool
  deriving DecidableEq, Inhabited

instance : Encode RequestCoverage where
  encode c := .obj [("current", encode c.current), ("target", encode c.target), ("needsTests", encode c.needsTests)]

/-- What an agent is asked. -/
structure RewriteRequest where
  file : String
  currentContent : String
  context : String
  violations : List RequestViolation
  coverage : RequestCoverage
  instructions : List String
  source : OutputFile
  tests : OutputFile
  issue : Option IssueContext
  bugReport : Option String
  deriving DecidableEq, Inhabited

namespace RewriteRequest

/-- The kind of task that all requests are. -/
def task : String := "unified_rewrite"

/-- What a request tells of an issue. -/
def issueJson (i : IssueContext) : Json :=
  .obj [("title", encode i.title), ("summary", encode i.summary), ("keywords", encode i.keywords),
    ("priorityAreas", encode i.priorityAreas), ("instructions", encode (Issue.priorityInstructions i))]

/-- What a request tells of a bug report. -/
def bugReportJson (text : String) : Json :=
  .obj [("type", .str "markdown_bug_report"), ("content", .str text), ("instructions", .str BugReport.instructions),
    ("priority", .str "high")]

instance : Encode RewriteRequest where
  encode r :=
    .present [("task", some (.str task)), ("file", some (encode r.file)), ("currentContent", some (encode r.currentContent)),
      ("context", some (encode r.context)), ("violations", some (encode r.violations)),
      ("coverage", some (encode r.coverage)), ("instructions", some (encode r.instructions)),
      ("outputFiles", some (encode [r.source, r.tests])), ("issueContext", r.issue.map issueJson),
      ("bugReportContext", r.bugReport.map bugReportJson)]

/-- The standards that an answer has to meet. -/
def qualityInstructions (p : Profile) : List String :=
  ["Apply rigid quality standards:",
    s!"1. Functions with complexity > {p.complexityMax.text} MUST be refactored (target: {p.complexityTarget.text})",
    s!"2. Coverage MUST be ≥{p.coverageMin.text}% with meaningful tests, not placeholders",
    "3. TDG (Technical Debt Gradient) MUST be < 1.0",
    s!"4. ZERO duplicate code, at most {p.satdAllowed.text} SATD comments",
    "5. All algorithms MUST be O(n) or better",
    "6. Fix ALL lint violations",
    "7. Every public item needs documentation",
    "Ensure the fixed code compiles, passes all tests, and meets ALL metrics"]

/-- Where the tests of a file go: beside it when it stands below a directory of sources, else among the project's tests. -/
def testFileFor (file : String) : String :=
  let path := normalizePath file
  let extension := Path.extname path
  let base := Path.basename path
  let stem := if extension ≠ "" ∧ base ≠ extension then String.ofList (base.toList.take (base.length - extension.length)) else base
  let name := stem ++ "_test" ++ extension
  if Text.starts path "src/" || Text.has path "/src/" then Path.join [Path.dirname path, name] else Path.join ["tests", name]

/-- A finding with the way to fix it. -/
def violationOf (v : Violation) : RequestViolation where
  line := v.line
  column := v.column
  lint := v.lintName
  message := v.message
  severity := v.severity
  fixStrategy := (FixStrategy.forLint v.lintName v.suggestion).describe
  suggestion := v.suggestion

/-- What a request is made from. -/
structure Input where
  file : String
  content : String
  context : Option String
  violations : List Violation
  coverage : Number
  profile : Profile
  issue : Option IssueContext
  bugReport : Option String
  deriving Inhabited

instance : Decode Input where
  decode? j := do
    return { file := j.fieldD "file" "", content := j.fieldD "content" "", context := j.fieldD "context" none,
             violations := j.fieldD "violations" [], coverage := j.fieldD "coverage" .nan, profile := j.fieldD "profile" default,
             issue := j.fieldD "issue" none, bugReport := j.fieldD "bugReport" none }

/-- The request about a file. -/
def build (input : Input) : RewriteRequest where
  file := input.file
  currentContent := input.content
  context := input.context.getD ""
  violations := input.violations.map violationOf
  coverage := ⟨input.coverage, input.profile.coverageMin, input.coverage.lt input.profile.coverageMin⟩
  instructions := qualityInstructions input.profile
  source := ⟨input.file, "Fixed source file with all violations resolved"⟩
  tests := ⟨testFileFor input.file, "Test file with comprehensive tests if needed"⟩
  issue := input.issue
  bugReport := input.bugReport.filter (· ≠ "")

/-- The first line of a printed request. -/
def opening : String := "AI_REWRITE_REQUEST_START"

/-- The last line of a printed request. -/
def closing : String := "AI_REWRITE_REQUEST_END"

/-- A request as JSON text. -/
def serialize (r : RewriteRequest) : String := (KeyCase.snakeKeys [] (encode r)).pretty

/-- A request as it is printed. -/
def text (r : RewriteRequest) : String := s!"{opening}\n{r.serialize}\n{closing}\n"

end RewriteRequest

end QualityGate
