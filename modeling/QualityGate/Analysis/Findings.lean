import QualityGate.Churn
import QualityGate.DebtScore
import QualityGate.Source.DeadCode

/-!
# What a project's sources show

The analyses that need nothing but the sources of a project: complexity, admitted debt and dead code, and the debt that follows from
them together with the project's history.
-/

namespace QualityGate

/-- The sources of a project, read once. -/
structure Snapshot where
  root : String
  toolchain : Toolchain
  documents : List Document
  deriving Inhabited

/-- The complexity of all files, greatest first. -/
structure ComplexityAnalysis where
  threshold : Number
  files : List FileComplexity
  summary : ComplexitySummary
  deriving Inhabited

instance : Encode ComplexityAnalysis where
  encode a := .obj [("threshold", encode a.threshold), ("files", encode a.files), ("summary", encode a.summary)]

instance : Decode ComplexityAnalysis where
  decode? j := do
    return { threshold := j.fieldD "threshold" .nan, files := j.fieldD "files" [], summary := j.fieldD "summary" default }

/-- Great values first, then by name. -/
def FileComplexity.order (a b : FileComplexity) : Ordering :=
  (compare b.maxCyclomatic a.maxCyclomatic).then (Collation.order a.path b.path)

def analyzeComplexity (s : Snapshot) (threshold : Number) : ComplexityAnalysis :=
  let files := sortBy FileComplexity.order (s.documents.map fun d => fileComplexity s.toolchain d.path d.content)
  ⟨threshold, files, summarizeComplexity files threshold⟩

/-- The count of lines of code of each file. -/
def linesOfCode (s : Snapshot) : Record Number :=
  Record.assignAll (s.documents.map fun d => (d.path, Number.ofNat (countCode (scan s.toolchain d.content))))

/-- The admitted debt of a project in a few numbers. -/
structure DebtTally where
  totalItems : Nat
  filesWithSatd : Nat
  bySeverity : DebtSeverity → Nat
  byCategory : DebtCategory → Nat
  deriving Inhabited

namespace DebtTally

def severities : List DebtSeverity := [.high, .medium, .low]

def categories : List DebtCategory := [.design, .defect, .requirement, .refactor, .quality]

instance : Encode DebtTally where
  encode t :=
    .obj [("totalItems", encode t.totalItems), ("filesWithSatd", encode t.filesWithSatd),
      ("bySeverity", .obj (severities.map fun s => (s.name, encode (t.bySeverity s)))),
      ("byCategory", .obj (categories.map fun c => (c.name, encode (t.byCategory c))))]

instance : Decode DebtTally where
  decode? j := do
    let counts (name : String) : Json := (j.get? name).getD .null
    return { totalItems := j.fieldD "totalItems" 0, filesWithSatd := j.fieldD "filesWithSatd" 0,
             bySeverity := fun s => (counts "bySeverity").fieldD s.name 0,
             byCategory := fun c => (counts "byCategory").fieldD c.name 0 }

end DebtTally

/-- The lines that admit debt. -/
structure DebtAnalysis where
  items : List DebtItem
  byFile : Record Figure
  summary : DebtTally
  deriving Inhabited

instance : Encode DebtAnalysis where
  encode a :=
    .obj [("items", encode a.items), ("byFile", Figure.recordJson a.byFile),
      ("summary", encode a.summary)]

instance : Decode DebtAnalysis where
  decode? j := do
    return { items := j.fieldD "items" [], byFile := ((j.get? "byFile").bind Json.decodeRecord?).getD [],
             summary := j.fieldD "summary" default }

/-- How many items each file has. -/
def debtByFile (items : List DebtItem) : Record Figure := items.foldl (fun r i => r.count i.file) []

def analyzeDebt (s : Snapshot) : DebtAnalysis :=
  let items := s.documents.flatMap fun d => detectSatd s.toolchain d.path d.content
  let byFile := debtByFile items
  { items, byFile,
    summary := { totalItems := items.length, filesWithSatd := byFile.length,
                 bySeverity := fun severity => items.countP fun i => i.severity = severity,
                 byCategory := fun category => items.countP fun i => i.category = category } }

/-- The files with dead code, those with most of it first. -/
structure DeadCodeAnalysis where
  files : List FileDeadCode
  summary : DeadCodeSummary
  deriving Inhabited

instance : Encode DeadCodeAnalysis := ⟨fun a => .obj [("files", encode a.files), ("summary", encode a.summary)]⟩

instance : Decode DeadCodeAnalysis where
  decode? j := do return { files := j.fieldD "files" [], summary := j.fieldD "summary" default }

def FileDeadCode.order (a b : FileDeadCode) : Ordering :=
  (compare b.deadLines a.deadLines).then (Collation.order a.path b.path)

def analyzeProjectDeadCode (s : Snapshot) : DeadCodeAnalysis :=
  let all := analyzeDeadCode s.toolchain s.documents
  ⟨sortBy FileDeadCode.order (all.filter fun f => !f.items.isEmpty), summarizeDeadCode all⟩

/-- The debt of a project, file by file. -/
structure DebtGradient where
  files : List DebtScore
  summary : DebtSummary
  deriving Inhabited

instance : Encode DebtGradient := ⟨fun g => .obj [("files", encode g.files), ("summary", encode g.summary)]⟩

instance : Decode DebtGradient where
  decode? j := do return { files := j.fieldD "files" [], summary := j.fieldD "summary" default }

/-- What the debt of a project follows from. -/
structure GradientInput where
  complexity : List FileComplexity
  churn : ChurnAnalysis
  satdItems : List DebtItem
  violations : List Violation
  threshold : Number
  deriving Inhabited

instance : Decode GradientInput where
  decode? j := do
    return { complexity := j.fieldD "complexity" [], churn := j.fieldD "churn" default, satdItems := j.fieldD "satdItems" [],
             violations := j.fieldD "violations" [], threshold := j.fieldD "threshold" .nan }

/-- The churn score of a file; of two entries for a file the later one counts. -/
def ChurnAnalysis.scoreOf? (c : ChurnAnalysis) (path : String) : Option Number :=
  ((c.files.reverse.find? fun f => f.path = path)).map (·.churnScore)

def analyzeGradient (input : GradientInput) : DebtGradient :=
  let scores := input.complexity.map fun f =>
    DebtScore.of
      { path := f.path, cyclomatic := f.functions.map fun fn => .ofNat fn.cyclomatic, sloc := .ofNat f.sloc,
        churnScore := (input.churn.scoreOf? f.path).getD 0,
        satd := (input.satdItems.filter fun i => i.file = f.path).map fun i => .ofNat i.severity.weight }
  let files := sortBy DebtScore.order scores
  let severities := input.violations.map (·.severity) ++ input.satdItems.map (·.toViolation.severity)
  let hours := DebtScore.hours (input.complexity.flatMap fun f => f.functions.map fun fn => .ofNat fn.cyclomatic) severities input.threshold
  ⟨files, DebtScore.summarize files hours DebtScore.defaultHotspots⟩

end QualityGate
