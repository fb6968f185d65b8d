import QualityGate.Analysis.Query
import QualityGate.Analysis.Report
import QualityGate.Analysis.TemplateFile
import QualityGate.Context
import QualityGate.Lock
import QualityGate.Protocol.Invocation

/-!
# The analyses of a project

An analyzer holds what analyses need: the tools, the directories of the run and the limits that were set. Each request reads the
project's sources once. `Analyzer.router` offers every kind of analysis, and the list of rewrite templates.
-/

namespace QualityGate

/-- The context of a project with a history, made at a time. -/
def Snapshot.context (s : Snapshot) (threshold : Number) (churn : ChurnAnalysis) (now : Instant) : DeepContext :=
  let complexity := analyzeComplexity s threshold
  let satd := analyzeDebt s
  .build
    { projectPath := s.root, toolchain := s.toolchain, threshold, generatedAt := Instant.text now, complexity, satd,
      deadCode := analyzeProjectDeadCode s, churn, tdg := analyzeGradient ⟨complexity.files, churn, satd.items, [], threshold⟩ }

structure Analyzer (η : Type) where
  tools : Tools η
  context : Context
  concurrency : Number
  coverageTimeoutMs : Int
  /-- The age of a stale lock, when measuring coverage has to take the cache lock; whoever holds it already needs none. -/
  coverageLock : Option Number
  templatesPath : Option String

namespace Analyzer

variable {η : Type}

/-- The sources of a project. -/
def snapshot (a : Analyzer η) (path : String) (filters : Filters) (toolchain : Option Toolchain) : Action η Snapshot := do
  let project ← Project.find a.context.cwd path toolchain
  let documents ← Discovery.documents project.root project.toolchain filters a.concurrency
  return ⟨project.root, project.toolchain, documents⟩

def churn (a : Analyzer η) (s : Snapshot) (days : Number) : Action η ChurnAnalysis := do
  analyzeChurn a.tools s.root days (← Action.now)

def gradient (a : Analyzer η) (s : Snapshot) (threshold days : Number) : Action η DebtGradient := do
  let churn ← a.churn s days
  return analyzeGradient ⟨(analyzeComplexity s threshold).files, churn, (analyzeDebt s).items, [], threshold⟩

def deepContext (a : Analyzer η) (s : Snapshot) (threshold days : Number) : Action η DeepContext := do
  let churn ← a.churn s days
  return s.context threshold churn (← Action.now)

/-- The cache that a project's coverage goes to: that of the run when it is the run's own project. -/
def cacheFor (a : Analyzer η) (root : String) : String :=
  if Path.resolve "/" root = Path.resolve "/" a.context.cwd then a.context.cacheDir
  else Path.join [root, Context.defaultCacheName]

def coverage (a : Analyzer η) (s : Snapshot) (file : Option String) : Action η CoverageMeasurement :=
  let cache := a.cacheFor s.root
  let measure := Coverage.measure a.tools a.coverageTimeoutMs s (Path.join [cache, "coverage"]) file
  match a.coverageLock with
  | none => measure
  | some staleMs => Lock.holding cache staleMs measure

/-- The result of a kind of analysis in the form that was asked for. -/
def answer (a : Analyzer η) (kind : AnalysisKind) (q : Query) : Action η Result := do
  let s ← a.snapshot q.projectPath q.filters q.toolchain
  let about : ReportMeta := ⟨s.root, Instant.text (← Action.now)⟩
  match kind with
  | .complexity => return Report.format Report.complexityView (analyzeComplexity s q.threshold) about q.format
  | .satd => return Report.format Report.debtView (analyzeDebt s) about q.format
  | .deadCode => return Report.format Report.deadCodeView (analyzeProjectDeadCode s) about q.format
  | .churn => return Report.format Report.churnView (← a.churn s q.days) about q.format
  | .tdg => return Report.format Report.gradientView (← a.gradient s q.threshold q.days) about q.format
  | .deepContext => return Report.format Report.contextView (← a.deepContext s q.threshold q.days) about q.format
  | .lintHotspot => return Report.format Report.lintView (← Lint.analyze a.tools s) about q.format
  | .compilationErrors => return Report.format Report.compilationView (← Lint.compile a.tools s) about q.format
  | .coverage =>
    let measured ← a.coverage s q.file
    match Report.coverageRefusal? measured q.format with
    | some refusal => Action.fail refusal
    | none => return Report.format Report.coverageView measured about q.format

/-- The route of a kind of analysis. -/
def route (a : Analyzer η) (kind : AnalysisKind) : Route η where
  method := .post
  path := Invocation.analyzePath ++ kind.name
  description := kind.description
  inputSchema := some (Query.schema kind)
  handler := checkedHandler (Query.check (some kind)) fun q _ => a.answer kind q

/-- The rewrite templates in an output format. -/
def listTemplates (source : TemplateSource) (now : Instant) (format : OutputFormat) : Result :=
  if format = .json ∨ format = .sarif then
    .json (KeyCase.snakeKeys [] (.obj [("generatedAt", .str (Instant.text now)), ("source", encode source.path),
      ("templates", .arr (source.templates.map fun t =>
        .obj [("fileSuffix", .str t.fileSuffix), ("signature", .str t.signature),
          ("replacementLines", encode (splitLines t.replacement.toList).length)]))]))
  else
    let lines := source.templates.map fun t => s!"{t.fileSuffix}: {t.signature}"
    .text (if lines.isEmpty then "No rewrite templates configured." else Text.join "\n" lines)

/-- The route of the template list. -/
def templatesRoute (a : Analyzer η) : Route η where
  method := .get
  path := Invocation.templatesPath
  description := "Configured rewrite templates"
  inputSchema := some (Query.typed "object" [("properties", .obj [("format", Query.formatSchema)])])
  handler := checkedHandler (Check.object fun q => Check.field q "format" Query.formatCheck) fun format _ => do
    let source ← TemplateSource.load a.templatesPath
    return listTemplates source (← Action.now) format

/-- All analyses and the template list, ready to be asked for. -/
def router (a : Analyzer η) : Router η := AnalysisKind.all.map a.route ++ [a.templatesRoute]

end Analyzer

end QualityGate
