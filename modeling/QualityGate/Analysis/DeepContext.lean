import QualityGate.Analysis.Findings
import QualityGate.Ranking

/-!
# The context of a project

All that the analyses of a project show in one value: each file with its functions and scores, the project's scorecard, what is most
complex and most likely broken, and what to do about it.
-/

namespace QualityGate

/-- A file with its functions and scores. -/
structure ContextFile where
  path : String
  sloc : Nat
  functions : List FunctionInfo
  satdItems : Figure
  deadCodeItems : Nat
  churnScore : Number
  tdg : Number
  tdgBand : DebtBand
  defectScore : Number
  deriving DecidableEq, Inhabited

instance : Encode ContextFile where
  encode f :=
    .present [("path", some (encode f.path)), ("sloc", some (encode f.sloc)), ("functions", some (encode f.functions)),
      ("satdItems", f.satdItems.json?), ("deadCodeItems", some (encode f.deadCodeItems)),
      ("churnScore", some (encode f.churnScore)), ("tdg", some (encode f.tdg)), ("tdgBand", some (encode f.tdgBand)),
      ("defectScore", some (encode f.defectScore))]

instance : Decode ContextFile where
  decode? j := do
    return { path := j.fieldD "path" "", sloc := j.fieldD "sloc" 0, functions := j.fieldD "functions" [],
             satdItems := j.fieldD "satdItems" (.number 0), deadCodeItems := j.fieldD "deadCodeItems" 0,
             churnScore := j.fieldD "churnScore" 0, tdg := j.fieldD "tdg" 0, tdgBand := j.fieldD "tdgBand" .healthy,
             defectScore := j.fieldD "defectScore" 0 }

structure Scorecard where
  overallHealth : Number
  complexityScore : Number
  maintainabilityIndex : Number
  technicalDebtHours : Number
  deriving DecidableEq, Inhabited

instance : Encode Scorecard where
  encode s :=
    .obj [("overallHealth", encode s.overallHealth), ("complexityScore", encode s.complexityScore),
      ("maintainabilityIndex", encode s.maintainabilityIndex), ("technicalDebtHours", encode s.technicalDebtHours)]

instance : Decode Scorecard where
  decode? j := do
    return { overallHealth := j.fieldD "overallHealth" 0, complexityScore := j.fieldD "complexityScore" 0,
             maintainabilityIndex := j.fieldD "maintainabilityIndex" 0,
             technicalDebtHours := j.fieldD "technicalDebtHours" 0 }

structure ContextSummary where
  totalFiles : Nat
  totalFunctions : Nat
  maxCyclomatic : Nat
  medianCyclomatic : Nat
  functionsOverThreshold : Nat
  satdItems : Nat
  deadCodeItems : Nat
  deadCodePercentage : Number
  totalCommits : Nat
  averageTdg : Number
  criticalFiles : Nat
  deriving DecidableEq, Inhabited

instance : Encode ContextSummary where
  encode s :=
    .obj [("totalFiles", encode s.totalFiles), ("totalFunctions", encode s.totalFunctions),
      ("maxCyclomatic", encode s.maxCyclomatic), ("medianCyclomatic", encode s.medianCyclomatic),
      ("functionsOverThreshold", encode s.functionsOverThreshold), ("satdItems", encode s.satdItems),
      ("deadCodeItems", encode s.deadCodeItems), ("deadCodePercentage", encode s.deadCodePercentage),
      ("totalCommits", encode s.totalCommits), ("averageTdg", encode s.averageTdg),
      ("criticalFiles", encode s.criticalFiles)]

instance : Decode ContextSummary where
  decode? j := do
    return { totalFiles := j.fieldD "totalFiles" 0, totalFunctions := j.fieldD "totalFunctions" 0,
             maxCyclomatic := j.fieldD "maxCyclomatic" 0, medianCyclomatic := j.fieldD "medianCyclomatic" 0,
             functionsOverThreshold := j.fieldD "functionsOverThreshold" 0, satdItems := j.fieldD "satdItems" 0,
             deadCodeItems := j.fieldD "deadCodeItems" 0, deadCodePercentage := j.fieldD "deadCodePercentage" 0,
             totalCommits := j.fieldD "totalCommits" 0, averageTdg := j.fieldD "averageTdg" 0,
             criticalFiles := j.fieldD "criticalFiles" 0 }

/-- A function that is among the most complex ones. -/
structure ComplexityHotspot where
  file : String
  function : String
  line : Nat
  cyclomatic : Nat
  cognitive : Nat
  deriving DecidableEq, Repr, Inhabited

instance : Encode ComplexityHotspot where
  encode h :=
    .obj [("file", encode h.file), ("function", encode h.function), ("line", encode h.line),
      ("cyclomatic", encode h.cyclomatic), ("cognitive", encode h.cognitive)]

instance : Decode ComplexityHotspot where
  decode? j := do
    return { file := j.fieldD "file" "", function := j.fieldD "function" "", line := j.fieldD "line" 0,
             cyclomatic := j.fieldD "cyclomatic" 0, cognitive := j.fieldD "cognitive" 0 }

/-- A file that is likely to be broken, and why. -/
structure PredictedDefect where
  file : String
  defectScore : Number
  factors : List String
  deriving DecidableEq, Inhabited

instance : Encode PredictedDefect where
  encode d := .obj [("file", encode d.file), ("defectScore", encode d.defectScore), ("factors", encode d.factors)]

instance : Decode PredictedDefect where
  decode? j := do
    return { file := j.fieldD "file" "", defectScore := j.fieldD "defectScore" 0, factors := j.fieldD "factors" [] }

inductive Priority where
  | high
  | medium
  | low
  deriving DecidableEq, Repr, Inhabited

namespace Priority

def name : Priority → String
  | high => "high"
  | medium => "medium"
  | low => "low"

def rank : Priority → Nat
  | high => 0
  | medium => 1
  | low => 2

instance : Encode Priority := ⟨fun p => .str p.name⟩
instance : Decode Priority := ⟨fun j => j.str?.bind fun s => [high, medium, low].find? fun p => p.name = s⟩

end Priority

/-- Something to do, with the files that it is about. -/
structure Recommendation where
  priority : Priority
  title : String
  description : String
  files : List String
  deriving DecidableEq, Inhabited

instance : Encode Recommendation where
  encode r :=
    .obj [("priority", encode r.priority), ("title", encode r.title), ("description", encode r.description),
      ("files", encode r.files)]

instance : Decode Recommendation where
  decode? j := do
    return { priority := j.fieldD "priority" .low, title := j.fieldD "title" "", description := j.fieldD "description" "",
             files := j.fieldD "files" [] }

/-- The context of a project. -/
structure DeepContext where
  generatedAt : String
  projectPath : String
  toolchain : Toolchain
  threshold : Number
  files : List ContextFile
  summary : ContextSummary
  scorecard : Scorecard
  complexityHotspots : List ComplexityHotspot
  churn : ChurnAnalysis
  satd : DebtAnalysis
  deadCode : DeadCodeAnalysis
  predictedDefects : List PredictedDefect
  recommendations : List Recommendation
  deriving Inhabited

instance : Encode DeepContext where
  encode c :=
    .obj [("generatedAt", encode c.generatedAt), ("projectPath", encode c.projectPath), ("toolchain", encode c.toolchain),
      ("threshold", encode c.threshold), ("files", encode c.files), ("summary", encode c.summary),
      ("scorecard", encode c.scorecard), ("complexityHotspots", encode c.complexityHotspots), ("churn", encode c.churn),
      ("satd", encode c.satd), ("deadCode", encode c.deadCode), ("predictedDefects", encode c.predictedDefects),
      ("recommendations", encode c.recommendations)]

instance : Decode DeepContext where
  decode? j := do
    return { generatedAt := j.fieldD "generatedAt" "", projectPath := j.fieldD "projectPath" "",
             toolchain := j.fieldD "toolchain" .rust, threshold := j.fieldD "threshold" .nan, files := j.fieldD "files" [],
             summary := j.fieldD "summary" default, scorecard := j.fieldD "scorecard" default,
             complexityHotspots := j.fieldD "complexityHotspots" [], churn := j.fieldD "churn" default,
             satd := j.fieldD "satd" default, deadCode := j.fieldD "deadCode" default,
             predictedDefects := j.fieldD "predictedDefects" [], recommendations := j.fieldD "recommendations" [] }

/-- What the context of a project is built from. -/
structure ContextInput where
  projectPath : String
  toolchain : Toolchain
  threshold : Number
  generatedAt : String
  complexity : ComplexityAnalysis
  satd : DebtAnalysis
  deadCode : DeadCodeAnalysis
  churn : ChurnAnalysis
  tdg : DebtGradient
  deriving Inhabited

instance : Decode ContextInput where
  decode? j := do
    return { projectPath := j.fieldD "projectPath" "", toolchain := j.fieldD "toolchain" .rust,
             threshold := j.fieldD "threshold" .nan, generatedAt := j.fieldD "generatedAt" "",
             complexity := j.fieldD "complexity" default, satd := j.fieldD "satd" default,
             deadCode := j.fieldD "deadCode" default, churn := j.fieldD "churn" default, tdg := j.fieldD "tdg" default }

namespace DeepContext

/-- How much complexity, churn and admitted debt weigh in a defect score. -/
def defectWeights : List (String × Number) := [("complexity", 0.4), ("churn", 0.3), ("satd", 0.3)]

def weight (name : String) : Number := (defectWeights.lookup name).getD 0

def clamp (x low high : Number) : Number := Number.min high (Number.max low x)

/-- A share of the largest value of a project. -/
def shareOf (x largest : Number) : Number := if Number.lt 0 largest then x / largest else 0

/-- How likely a file is to be broken, each part relative to the largest one in the project. -/
def defectScore (maxCyclomatic churnScore satdItems largestCyclomatic largestSatd : Number) : Number :=
  (weight "complexity" * shareOf maxCyclomatic largestCyclomatic + weight "churn" * clamp churnScore 0 1 +
    weight "satd" * shareOf satdItems largestSatd).roundScaled 3

def scoreProject (tdg : DebtSummary) (s : ContextSummary) : Scorecard :=
  let excess := if s.totalFunctions = 0 then 0 else Number.ofNat s.functionsOverThreshold / Number.ofNat s.totalFunctions
  let complexityScore := (100 * (1 - excess)).roundScaled 1
  let maintainabilityIndex := (clamp (100 - 20 * tdg.averageTdg) 0 100).roundScaled 1
  let satdPenalty := Number.min 20 (.ofNat s.satdItems)
  let deadPenalty := Number.min 20 s.deadCodePercentage
  { overallHealth :=
      (clamp ((complexityScore + maintainabilityIndex) / 2 - satdPenalty - deadPenalty) 0 100).roundScaled 1,
    complexityScore, maintainabilityIndex, technicalDebtHours := tdg.estimatedDebtHours }

/-- What makes a file likely to be broken. -/
def factors (f : ContextFile) (threshold : Number) : List String :=
  let most := largest (f.functions.map (·.cyclomatic))
  (if threshold.lt (.ofNat most) then [s!"max cyclomatic complexity {most}"] else []) ++
    (if Number.lt 0 f.churnScore then [s!"churn score {f.churnScore.text}"] else []) ++
    (if Number.lt 0 f.satdItems.value then [s!"{f.satdItems.shown} SATD items"] else []) ++
    (if 0 < f.deadCodeItems then [s!"{f.deadCodeItems} dead code items"] else [])

/-- How many files a recommendation names. -/
def namedFiles : Nat := 5

def recommendComplexity (input : ContextInput) (files : List ContextFile) : Option Recommendation :=
  let complex := (files.filter fun f => f.functions.any fun fn => input.threshold.lt (.ofNat fn.cyclomatic)).map (·.path)
  if complex.isEmpty then none
  else
    let count := input.complexity.summary.functionsOverThreshold
    some ⟨.high, "Reduce function complexity",
      s!"{count} functions exceed cyclomatic complexity {input.threshold.text}; extract helpers until each is at or below the threshold.",
      complex.take namedFiles⟩

def recommendCritical (input : ContextInput) : Option Recommendation :=
  let critical := (input.tdg.files.filter fun f => f.band = .critical).map (·.path)
  if critical.isEmpty then none
  else
    some ⟨.high, "Refactor critical technical debt",
      s!"{critical.length} files have a technical debt gradient of 2.0 or more.", critical.take namedFiles⟩

def recommendDebt (input : ContextInput) : Option Recommendation :=
  let total := input.satd.summary.totalItems
  let defects := input.satd.summary.bySeverity .high
  if total = 0 then none
  else
    let order (a b : String × Figure) := (Number.order b.2.value a.2.value).then (Collation.order a.1 b.1)
    let ranked := Ranking.rank (fun entry => !entry.2.value.isNan) order input.satd.byFile
    some ⟨if 0 < defects then .high else .medium, "Resolve self-admitted technical debt",
      if 0 < defects then s!"{total} SATD comments, {defects} of them marking known defects."
      else s!"{total} SATD comments remain in the code.",
      (ranked.take namedFiles).map (·.1)⟩

def recommendDeadCode (input : ContextInput) : Option Recommendation :=
  if input.deadCode.files.isEmpty then none
  else
    let s := input.deadCode.summary
    some ⟨.medium, "Remove dead code", s!"{s.totalDeadLines} lines across {s.filesWithDeadCode} files appear unused.",
      (input.deadCode.files.take namedFiles).map (·.path)⟩

def recommendChurn (input : ContextInput) : Option Recommendation :=
  let hot := input.churn.summary.hotspotFiles
  if hot.isEmpty then none
  else
    some ⟨.low, "Stabilize frequently changed files",
      s!"{hot.length} files changed more than five times in the last {input.churn.periodDays.text} days.", hot.take namedFiles⟩

/-- What to do, most pressing first. -/
def recommend (input : ContextInput) (files : List ContextFile) : List Recommendation :=
  let all := [recommendComplexity input files, recommendCritical input, recommendDebt input, recommendDeadCode input,
    recommendChurn input].filterMap id
  sortBy (fun a b => compare a.priority.rank b.priority.rank) all

/-- How many hotspots and predicted defects are listed. -/
def listLimit : Nat := 10

def hotspotOrder (a b : ComplexityHotspot) : Ordering :=
  (((compare b.cyclomatic a.cyclomatic).then (compare b.cognitive a.cognitive)).then (Collation.order a.file b.file)).then
    (compare a.line b.line)

/-- The files of a project with their scores, by name. -/
def contextFiles (input : ContextInput) : List ContextFile :=
  let largestCyclomatic := Number.ofNat (largest (input.complexity.files.map (·.maxCyclomatic)))
  let largestSatd := (input.satd.byFile.values.map Figure.value).foldl Number.max 0
  let files := input.complexity.files.map fun f =>
    let churnScore := (input.churn.scoreOf? f.path).getD 0
    let satdItems := (input.satd.byFile.figure? f.path).getD (.number 0)
    let debt := input.tdg.files.reverse.find? fun s => s.path = f.path
    let dead := input.deadCode.files.reverse.find? fun d => d.path = f.path
    { path := f.path, sloc := f.sloc, functions := f.functions, satdItems,
      deadCodeItems := (dead.map (·.items.length)).getD 0, churnScore, tdg := (debt.map (·.value)).getD 0,
      tdgBand := (debt.map (·.band)).getD .healthy,
      defectScore := defectScore (.ofNat f.maxCyclomatic) churnScore satdItems.value largestCyclomatic largestSatd }
  sortBy (fun a b => Collation.order a.path b.path) files

def summarize (input : ContextInput) (files : List ContextFile) : ContextSummary where
  totalFiles := files.length
  totalFunctions := input.complexity.summary.totalFunctions
  maxCyclomatic := input.complexity.summary.maxCyclomatic
  medianCyclomatic := input.complexity.summary.medianCyclomatic
  functionsOverThreshold := input.complexity.summary.functionsOverThreshold
  satdItems := input.satd.summary.totalItems
  deadCodeItems := total (input.deadCode.files.map (·.items.length))
  deadCodePercentage := input.deadCode.summary.deadPercentage
  totalCommits := input.churn.summary.totalCommits
  averageTdg := input.tdg.summary.averageTdg
  criticalFiles := input.tdg.summary.criticalFiles

/-- The functions of all files, most complex first. -/
def hotspots (files : List ContextFile) : List ComplexityHotspot :=
  sortBy hotspotOrder (files.flatMap fun f => f.functions.map fun fn => ⟨f.path, fn.name, fn.line, fn.cyclomatic, fn.cognitive⟩)

/-- The files that are likely to be broken, most likely first. -/
def defects (files : List ContextFile) (threshold : Number) : List PredictedDefect :=
  let order (a b : ContextFile) := (Number.order b.defectScore a.defectScore).then (Collation.order a.path b.path)
  let ranked := sortBy order (files.filter fun f => Number.lt 0 f.defectScore)
  ranked.map fun f => ⟨f.path, f.defectScore, factors f threshold⟩

/-- The context of a project. -/
def build (input : ContextInput) : DeepContext :=
  let files := contextFiles input
  let summary := summarize input files
  { generatedAt := input.generatedAt, projectPath := input.projectPath, toolchain := input.toolchain,
    threshold := input.threshold, files, summary, scorecard := scoreProject input.tdg.summary summary,
    complexityHotspots := (hotspots files).take listLimit, churn := input.churn, satd := input.satd,
    deadCode := input.deadCode, predictedDefects := (defects files input.threshold).take listLimit,
    recommendations := recommend input files }

/-- The functions of a file; of two files of one name the later one counts. -/
def functionsOf? (c : DeepContext) (path : String) : Option (List FunctionInfo) :=
  (c.files.reverse.find? fun f => f.path = path).map (·.functions)

/-- The functions of each file. -/
def functionsByFile (c : DeepContext) : List (String × List FunctionInfo) :=
  c.files.foldl (fun index f =>
    if index.any (·.1 = f.path) then index.map fun (p, fns) => if p = f.path then (p, f.functions) else (p, fns)
    else index ++ [(f.path, f.functions)]) []

end DeepContext

end QualityGate
