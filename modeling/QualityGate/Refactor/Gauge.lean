import QualityGate.Analysis.Service
import QualityGate.Plan
import QualityGate.Selection

/-!
# Measuring quality

A gauge tells how good a project is, and how good one file of it. The gauge of a run measures with the analyses that everyone can ask
for; lint findings even come through the router, so that they are the ones that a client would see. When the linter fails without a
finding, the compiler's errors stand in.
-/

namespace QualityGate

/-- What one measurement shows of a project. -/
structure QualitySample where
  toolchain : Toolchain
  metrics : Metrics
  violations : List Violation
  compilationErrors : List CompilationError
  /-- The build fails, but no error names a file. -/
  unparsedBuildFailure : Bool
  coverageByFile : Record Number
  sourceFiles : List SourceFile
  complexity : List FileComplexity
  satdByFile : Record Number
  deriving DecidableEq, Inhabited

instance : Encode QualitySample where
  encode s :=
    let numbers (r : Record Number) : Json := .obj (r.map fun (name, x) => (name, encode x))
    .obj [("toolchain", encode s.toolchain), ("metrics", encode s.metrics), ("violations", encode s.violations),
      ("compilationErrors", encode s.compilationErrors), ("unparsedBuildFailure", encode s.unparsedBuildFailure),
      ("coverageByFile", numbers s.coverageByFile), ("sourceFiles", encode s.sourceFiles),
      ("complexity", encode s.complexity), ("satdByFile", numbers s.satdByFile)]

instance : Decode QualitySample where
  decode? j := do
    return { toolchain := j.fieldD "toolchain" .rust, metrics := j.fieldD "metrics" default,
             violations := j.fieldD "violations" [], compilationErrors := j.fieldD "compilationErrors" [],
             unparsedBuildFailure := j.fieldD "unparsedBuildFailure" false,
             coverageByFile := ((j.get? "coverageByFile").bind Json.decodeRecord?).getD [],
             sourceFiles := j.fieldD "sourceFiles" [], complexity := j.fieldD "complexity" [],
             satdByFile := ((j.get? "satdByFile").bind Json.decodeRecord?).getD [] }

/-- What a measurement shows of one file: its coverage and every finding that is still in it. -/
structure FileSample where
  coverage : Number
  violations : List Violation
  deriving DecidableEq, Inhabited

instance : Encode FileSample := ⟨fun s => .obj [("coverage", encode s.coverage), ("violations", encode s.violations)]⟩

instance : Decode FileSample where
  decode? j := do return { coverage := j.fieldD "coverage" .nan, violations := j.fieldD "violations" [] }

/-- What measures a project. -/
structure QualityGauge (η : Type) where
  context : Action η DeepContext
  measure : Action η QualitySample
  measureFile : String → Action η FileSample

namespace Gauge

/-- What the linter, or else the compiler, finds. -/
structure LintPass where
  totalViolations : Int
  filesWithIssues : Nat
  violations : List Violation
  compilationErrors : List CompilationError
  unparsedBuildFailure : Bool
  deriving Inhabited

/-- What a run measures. -/
structure Setup (η : Type) where
  analyzer : Analyzer η
  router : Router η
  projectPath : String
  filters : Filters
  profile : Profile
  toolchain : Option Toolchain

/-! ## Lint findings in a response -/

def violationCheck : Check Violation := Check.object fun v =>
  Violation.mk <$> Check.field v "file" Check.text <*> Check.field v "line" Check.integer
    <*> Check.field v "column" Check.integer <*> Check.field v "endLine" Check.integer
    <*> Check.field v "endColumn" Check.integer <*> Check.field v "lintName" Check.text
    <*> Check.field v "message" Check.text <*> Check.field v "severity" (fun j => (Check.text j).map Severity.ofWord)
    <*> Check.field v "suggestion" (Check.optional Check.text) <*> Check.field v "machineApplicable" Check.bool

/-- The lint findings that a response tells of. -/
structure LintReport where
  totalViolations : Int
  summaryByFile : Record Int
  violations : List Violation
  toolExitCode : Option Int
  deriving Inhabited

def lintReportCheck : Check LintReport := Check.object fun r =>
  LintReport.mk <$> Check.field r "totalProjectViolations" Check.integer
    <*> Check.field r "summaryByFile" (Check.record (Check.object fun f =>
      (fun (_ : Number) total => total) <$> Check.field f "defectDensity" Check.number
        <*> Check.field f "totalViolations" Check.integer))
    <*> Check.field r "allViolations" (Check.list violationCheck)
    <*> Check.field r "toolExitCode" (Check.nullable Check.integer)

/-- The lint findings in the body of a response. -/
def readLint (body : String) : Except Failure LintReport :=
  match Json.ofText? body with
  | none => .error .malformedJson
  | some j =>
    let checked := lintReportCheck (some (KeyCase.camelKeys ["summary_by_file"] j))
    match checked.accepted? with
    | some report => .ok report
    | none => .error (.other (Text.join "; " (checked.faults.map (·.message))))

variable {η : Type}

namespace Setup

def snapshot (g : Setup η) : Action η Snapshot := g.analyzer.snapshot g.projectPath g.filters g.toolchain

/-- The request for lint findings. -/
def lintRequest (g : Setup η) : Request where
  method := .post
  path := Invocation.analyzePath ++ AnalysisKind.lintHotspot.name
  body := (Json.present [("project_path", some (.str g.projectPath)), ("format", some (.str "json")),
    ("include", some (encode g.filters.include_)), ("exclude", some (encode g.filters.exclude)),
    ("toolchain", g.toolchain.map encode)]).compact
  headers := Response.typeHeader Response.jsonType
  format := .json
  asked := .cli "analyze lint-hotspot" []

def lint (g : Setup η) : Action η LintReport := do
  let response ← g.router.handle g.lintRequest
  if 400 ≤ response.status then Action.fail (.other s!"lint-hotspot analysis failed: {response.errorMessage}")
  Action.ofExcept (readLint response.body)

/-- The linter's findings; the compiler's errors when the linter fails without a finding. -/
def lintPass (g : Setup η) (s : Snapshot) : Action η LintPass := do
  let report ← g.lint
  let found : LintPass := ⟨report.totalViolations, report.summaryByFile.length, report.violations, [], false⟩
  if !report.violations.isEmpty ∨ report.toolExitCode = none ∨ report.toolExitCode = some 0 then return found
  let build ← Lint.compile g.analyzer.tools s
  if build.errors.isEmpty then
    return { found with unparsedBuildFailure := build.buildExitCode.any (· ≠ 0) }
  Action.log .info "lint failed; using compilation errors" [("errors", encode build.errors.length)]
  return ⟨build.hotspot.totalProjectViolations, build.hotspot.summaryByFile.length, build.hotspot.allViolations, build.errors,
    false⟩

/-- The measured coverage of each source. -/
def coverageByFile (report : CoverageReport) (documents : List Document) : Record Number :=
  Record.assignAll (documents.filterMap fun d => (report.ofFile? d.path).map fun f => (d.path, f.value))

def measure (g : Setup η) : Action η QualitySample := do
  let s ← g.snapshot
  let lint ← g.lintPass s
  let coverage ← g.analyzer.coverage s none
  let complexity := analyzeComplexity s g.profile.complexityMax
  let satd := analyzeDebt s
  Action.log .debug "quality measured" [("violations", encode lint.totalViolations), ("coverage", encode coverage.percent),
    ("satd", encode satd.summary.totalItems)]
  return {
    toolchain := s.toolchain
    metrics := {
      totalViolations := .ofInt lint.totalViolations
      filesWithIssues := .ofNat lint.filesWithIssues
      totalFiles := .ofNat s.documents.length
      coveragePercent := coverage.percent.value
      maxComplexity := .ofNat complexity.summary.maxCyclomatic
      functionsWithHighComplexity := .ofNat complexity.summary.functionsOverThreshold
      totalFunctions := .ofNat complexity.summary.totalFunctions
      satdCount := .ofNat satd.summary.totalItems }
    violations := lint.violations
    compilationErrors := lint.compilationErrors
    unparsedBuildFailure := lint.unparsedBuildFailure
    coverageByFile := coverageByFile coverage.report s.documents
    sourceFiles := complexity.files.map fun f => ⟨f.path, .ofNat f.sloc⟩
    complexity := complexity.files
    satdByFile := satd.byFile.mapValues Figure.value }

/-- What a source itself shows. -/
def findings (g : Setup η) (t : Toolchain) (d : Document) : List Violation :=
  (detectSatd t d.path d.content).map DebtItem.toViolation ++ Plan.highComplexity d.path (outline t d.content) g.profile

def measureFile (g : Setup η) (file : String) : Action η FileSample := do
  let s ← g.snapshot
  let lint ← g.lintPass s
  let coverage ← g.analyzer.coverage s (some file)
  let shown := match s.documents.find? fun d => d.path = file with
    | some d => g.findings s.toolchain d
    | none => []
  return ⟨coverage.percent.value, lint.violations.filter (fun v => v.file = file) ++ shown⟩

/-- The gauge of a run. -/
def gauge (g : Setup η) : QualityGauge η where
  context := do g.analyzer.deepContext (← g.snapshot) g.profile.complexityMax Query.defaultDays
  measure := g.measure
  measureFile := g.measureFile

end Setup

end Gauge

end QualityGate
