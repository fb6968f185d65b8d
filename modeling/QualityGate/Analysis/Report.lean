import QualityGate.Analysis.ContextMarkdown
import QualityGate.Analysis.Lint
import QualityGate.Analysis.Sarif
import QualityGate.Coverage.Sampler
import QualityGate.Json.KeyCase
import QualityGate.Protocol.Router

/-!
# Reports

How the result of each analysis reads in each output format. A view says what is particular to an analysis: its title, the lines of
its summary and of its details, its log of findings, and perhaps its own Markdown.
-/

namespace QualityGate

/-- What a report says about itself. -/
structure ReportMeta where
  projectPath : String
  generatedAt : String
  deriving DecidableEq, Repr, Inhabited

/-- How the result of an analysis reads. The keys of the records under the preserved fields are data and stay as they are. -/
structure View (α : Type) where
  title : String
  preserve : List String
  summary : α → List String
  details : α → List String
  sarif : α → Json
  markdown : Option (α → String)

namespace Report

/-- How many details a report lists. -/
def detailLimit : Nat := 20

def bullets (lines : List String) : List String := lines.map ("- " ++ ·)

def indented (lines : List String) : List String := lines.map ("  " ++ ·)

/-- A result as Markdown, when its view has none of its own. -/
def plainMarkdown {α : Type} (v : View α) (data : α) (m : ReportMeta) : String :=
  let details := v.details data
  let chapters := [s!"# {v.title}", s!"**Generated:** {m.generatedAt}\n**Project:** {m.projectPath}",
    Text.join "\n" ("## Summary" :: "" :: bullets (v.summary data))] ++
    (if details.isEmpty then [] else [Text.join "\n" ("## Details" :: "" :: bullets details)])
  Text.join "\n\n" chapters ++ "\n"

/-- The fields of a result after those of the report. -/
def withMeta (m : ReportMeta) : Json → Json
  | .obj fields => .record (("generatedAt", .str m.generatedAt) :: ("projectPath", .str m.projectPath) :: fields)
  | other => other

/-- The result of an analysis in an output format, given the fields that it is written with. -/
def formatFields {α : Type} (v : View α) (data : α) (fields : Json) (m : ReportMeta) : OutputFormat → Result
  | .json => .json (KeyCase.snakeKeys v.preserve (withMeta m fields))
  | .sarif => .json (v.sarif data)
  | .markdown =>
    .text (match v.markdown with
      | some write => write data
      | none => plainMarkdown v data m) (some Response.markdownType)
  | .summary => .text (Text.join "\n" (v.title :: indented (v.summary data)))
  | .full => .text (Text.join "\n" (v.title :: indented (v.summary data) ++ "" :: indented (v.details data)))

/-- The result of an analysis in an output format. -/
def format {α : Type} [Encode α] (v : View α) (data : α) (m : ReportMeta) (f : OutputFormat) : Result :=
  formatFields v data (encode data) m f

/-! ## Findings as log entries -/

def complexityRules : List SarifRule :=
  [⟨"complexity/high-cyclomatic", "High cyclomatic complexity", .warning, ["complexity", "maintainability"], ""⟩,
   ⟨"complexity/high-cognitive", "High cognitive complexity", .warning, ["complexity", "maintainability"], ""⟩]

def debtRule : SarifRule :=
  ⟨"debt/technical-debt", "Self-admitted technical debt", .note, ["debt", "maintainability"], ""⟩

def deadCodeRule : SarifRule :=
  ⟨"dead-code/unused-code", "Dead code detected", .warning, ["dead-code", "maintainability"], ""⟩

def churnRule : SarifRule := ⟨"churn/hotspot", "Frequently changed file", .note, ["churn"], ""⟩

def gradientRule : SarifRule :=
  ⟨"debt/technical-debt-gradient", "High technical debt gradient", .warning, ["debt"], ""⟩

def coverageRule : SarifRule := ⟨"coverage/low-coverage", "Low test coverage", .note, ["coverage"], ""⟩

/-- The cognitive value above which a function is reported, whatever the threshold for the cyclomatic one. -/
def cognitiveThreshold : Nat := 15

/-- The results about a function: its cyclomatic value over the threshold, and its cognitive value over a fixed one. -/
def functionResults (threshold : Number) (path : String) (f : FunctionInfo) : List SarifResult :=
  let properties := Json.obj [("cyclomatic_complexity", encode f.cyclomatic), ("cognitive_complexity", encode f.cognitive)]
  let place : SarifLocation := ⟨path, .ofNat f.line, some (.ofNat f.endLine), none⟩
  let quoted := "'" ++ f.name ++ "'"
  (if threshold.lt (.ofNat f.cyclomatic) then
    [⟨"complexity/high-cyclomatic", if (threshold * 2).lt (.ofNat f.cyclomatic) then .error else .warning,
      s!"Function {quoted} has cyclomatic complexity of {f.cyclomatic}", [place], some properties⟩] else []) ++
  (if cognitiveThreshold < f.cognitive then
    [⟨"complexity/high-cognitive", if 25 < f.cognitive then .error else .warning,
      s!"Function {quoted} has cognitive complexity of {f.cognitive}", [place], some properties⟩] else [])

def debtLevel : DebtSeverity → SarifLevel
  | .high => .error
  | .medium => .warning
  | .low => .note

def trimmed (text : String) : String := String.ofList (trim text.toList)

def debtResult (i : DebtItem) : SarifResult :=
  ⟨debtRule.id, debtLevel i.severity, s!"{i.marker}: {trimmed i.text}", [⟨i.file, .ofNat i.line, none, none⟩],
    some (.obj [("category", encode i.category), ("severity", encode i.severity)])⟩

def deadCodeResults (a : DeadCodeAnalysis) : List SarifResult :=
  a.files.flatMap fun f => f.items.map fun i =>
    let quoted := "'" ++ i.name ++ "'"
    ⟨deadCodeRule.id, .warning, s!"{i.itemType.name} {quoted}: {i.reason}", [⟨f.path, .ofNat i.line, none, none⟩],
      some (.obj [("confidence", encode f.confidence)])⟩

def severityLevel : Severity → SarifLevel
  | .error => .error
  | .warning => .warning
  | _ => .note

def violationResult (v : Violation) : SarifResult :=
  ⟨v.lintName, severityLevel v.severity, v.message,
    [⟨v.file, .ofInt v.line, some (.ofInt v.endLine), some (.ofInt v.column)⟩],
    some (.obj [("machine_applicable", encode v.machineApplicable)])⟩

/-- A log of violations, with a rule for each lint. -/
def violationLog (violations : List Violation) : Json :=
  let names := sortTexts (distinct (violations.map (·.lintName)))
  Sarif.log (names.map fun n => ⟨n, n, .warning, ["lint"], ""⟩) (violations.map violationResult)

/-! ## The views -/

def complexityView : View ComplexityAnalysis where
  title := "Complexity Analysis"
  preserve := []
  summary a :=
    [s!"Files: {a.summary.totalFiles}", s!"Functions: {a.summary.totalFunctions}",
      s!"Max cyclomatic: {a.summary.maxCyclomatic}", s!"Max cognitive: {a.summary.maxCognitive}",
      s!"Median cyclomatic: {a.summary.medianCyclomatic}",
      s!"Functions over {a.threshold.text}: {a.summary.functionsOverThreshold}"]
  details a :=
    let tooComplex := a.files.flatMap fun f => (f.functions.filter fun fn => a.threshold.lt (.ofNat fn.cyclomatic)).map (f.path, ·)
    let ranked := sortBy (fun x y => compare y.2.cyclomatic x.2.cyclomatic) tooComplex
    (ranked.take detailLimit).map fun (path, fn) =>
      s!"{path}:{fn.line} {fn.name} cyclomatic {fn.cyclomatic}, cognitive {fn.cognitive}"
  sarif a :=
    Sarif.log complexityRules (a.files.flatMap fun f => f.functions.flatMap (functionResults a.threshold f.path))
  markdown := none

def debtView : View DebtAnalysis where
  title := "Self-Admitted Technical Debt"
  preserve := ["byFile"]
  summary a :=
    let high := a.summary.bySeverity .high
    let medium := a.summary.bySeverity .medium
    let low := a.summary.bySeverity .low
    [s!"Items: {a.summary.totalItems}", s!"Files: {a.summary.filesWithSatd}",
      s!"High: {high}, medium: {medium}, low: {low}"]
  details a := a.items.map fun i => s!"{i.file}:{i.line} {i.marker} ({i.severity.name}) {trimmed i.text}"
  sarif a := Sarif.log [debtRule] (a.items.map debtResult)
  markdown := none

def deadCodeView : View DeadCodeAnalysis where
  title := "Dead Code Analysis"
  preserve := []
  summary a :=
    let share := a.summary.deadPercentage.fixed 1
    [s!"Files analyzed: {a.summary.totalFilesAnalyzed}", s!"Files with dead code: {a.summary.filesWithDeadCode}",
      s!"Dead lines: {a.summary.totalDeadLines} ({share}%)",
      s!"Dead functions: {a.summary.deadFunctions}, classes: {a.summary.deadClasses}, unreachable blocks: {a.summary.unreachableBlocks}"]
  details a :=
    a.files.flatMap fun f => f.items.map fun i => s!"{f.path}:{i.line} {i.itemType.name} {i.name}: {i.reason}"
  sarif a := Sarif.log [deadCodeRule] (deadCodeResults a)
  markdown := none

def churnView : View ChurnAnalysis where
  title := "Code Churn Analysis"
  preserve := ["authorContributions"]
  summary a :=
    [s!"Period: {a.periodDays.text} days", s!"Commits: {a.summary.totalCommits}",
      s!"Files changed: {a.summary.totalFilesChanged}", s!"Hotspots: {a.summary.hotspotFiles.length}"]
  details a :=
    (a.files.take detailLimit).map fun f =>
      s!"{f.path}: {f.commitCount} commits, +{f.additions}/-{f.deletions}, score {f.churnScore.text}"
  sarif a :=
    Sarif.log [churnRule] ((a.files.filter fun f => a.summary.hotspotFiles.contains f.path).map fun f =>
      ⟨churnRule.id, .note, s!"{f.commitCount} commits by {f.uniqueAuthors.length} authors", [⟨f.path, 1, none, none⟩],
        some (.obj [("churn_score", encode f.churnScore)])⟩)
  markdown := none

def gradientView : View DebtGradient where
  title := "Technical Debt Gradient"
  preserve := []
  summary a :=
    [s!"Files: {a.summary.totalFiles}", s!"Critical: {a.summary.criticalFiles}", s!"Refactor: {a.summary.warningFiles}",
      s!"Average TDG: {a.summary.averageTdg.text}", s!"P95 TDG: {a.summary.p95Tdg.text}",
      s!"Estimated debt: {a.summary.estimatedDebtHours.text} hours"]
  details a := a.summary.hotspots.map fun f => s!"{f.path}: {f.value.text} ({f.band.name})"
  sarif a :=
    Sarif.log [gradientRule] ((a.files.filter fun f => f.band = .critical ∨ f.band = .refactor).map fun f =>
      ⟨gradientRule.id, if f.band = .critical then .error else .warning, s!"TDG {f.value.text} ({f.band.name})",
        [⟨f.path, 1, none, none⟩], some (.obj [("tdg", encode f.value)])⟩)
  markdown := none

def contextView : View DeepContext where
  title := "Deep Context Analysis"
  preserve := ["byFile", "authorContributions"]
  summary c :=
    let health := c.scorecard.overallHealth.fixed 1
    [s!"Files: {c.summary.totalFiles}", s!"Functions: {c.summary.totalFunctions}", s!"Overall health: {health}%",
      s!"SATD items: {c.summary.satdItems}", s!"Dead code items: {c.summary.deadCodeItems}",
      s!"Estimated debt: {c.scorecard.technicalDebtHours.text} hours"]
  details c := c.recommendations.map fun r => s!"[{r.priority.name}] {r.title}: {r.description}"
  sarif c :=
    Sarif.log (complexityRules ++ [debtRule, deadCodeRule])
      ((c.files.flatMap fun f => f.functions.flatMap (functionResults c.threshold f.path)) ++ c.satd.items.map debtResult ++
        deadCodeResults c.deadCode)
      (some (.obj [("overall_health_score", encode c.scorecard.overallHealth),
        ("technical_debt_hours", encode c.scorecard.technicalDebtHours)]))
  markdown := some DeepContext.markdown

def hotspotLine (h : Option Hotspot) : String :=
  match h with
  | some h =>
    let density := h.defectDensity.fixed 4
    s!"Hotspot: {h.file} ({h.totalViolations} violations, density {density})"
  | none => "Hotspot: none"

def violationLine (v : Violation) : String :=
  s!"{v.file}:{v.line}:{v.column} {v.severity.name} [{v.lintName}] {v.message}"

def lintView : View LintAnalysis where
  title := "Lint Hotspot Analysis"
  preserve := ["summaryByFile"]
  summary a :=
    [s!"Tool: {a.tool}", s!"Violations: {a.findings.totalProjectViolations}", hotspotLine a.findings.hotspot]
  details a := (a.findings.allViolations.take detailLimit).map violationLine
  sarif a := violationLog a.findings.allViolations
  markdown := none

def compilationView : View CompilationAnalysis where
  title := "Compilation Errors"
  preserve := ["summaryByFile"]
  summary a :=
    let code := match a.buildExitCode with
      | some code => toString code
      | none => "not run"
    [s!"Build exit code: {code}", s!"Errors: {a.errors.length}", hotspotLine a.hotspot.hotspot]
  details a := a.errors.map fun e =>
    let code := e.code.getD "error"
    s!"{e.file}:{e.line}:{e.column} {code} {e.message}"
  sarif a := violationLog a.hotspot.allViolations
  markdown := none

def coverageView : View CoverageMeasurement where
  title := "Coverage"
  preserve := ["byFile"]
  summary m :=
    let subject := m.file.getD "Project"
    let percent := m.percent.fixed 1
    [s!"Source: {m.source.name}", s!"{subject}: {percent}%"]
  details m :=
    let order (a b : String × Number) := (Number.order a.2 b.2).then (Collation.order a.1 b.1)
    (sortBy order m.report.byFile).map fun (file, percent) => s!"{file}: {percent.fixed 1}%"
  sarif m :=
    let percent := m.percent.fixed 1
    Sarif.log [coverageRule] (match m.file.filter (· ≠ "") with
      | some file => [⟨coverageRule.id, .note, s!"Line coverage {percent}%", [⟨file, 1, none, none⟩], none⟩]
      | none => [])
  markdown := none

/-- Why coverage cannot be shown in a format: but for plain data, the percentage has to be a number wherever it is shown. -/
def coverageRefusal? (m : CoverageMeasurement) (f : OutputFormat) : Option Failure :=
  match m.percent, f with
  | .number _, _ | _, .json => none
  | _, .sarif => if (m.file.filter (· ≠ "")).isSome then some (.noNumber "percent") else none
  | _, _ => some (.noNumber "data.percent")

end Report

end QualityGate
