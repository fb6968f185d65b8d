import QualityGate.Number.Arithmetic
import QualityGate.Profile

/-!
# Quality gates and progress

Whether measured metrics keep the limits of a profile, how far a project has come on the way there, and what the next phase of work
is. The percentages are computed over any numbers (`Completion.of`), so that their bounds can be stated of exact ones.
-/

namespace QualityGate

open Arithmetic

/-- The phases of work on a project. -/
inductive Phase where
  | initialization
  | lintFixes
  | buildFixes
  | complexityReduction
  | satdCleanup
  | coverageDriven
  | qualityValidation
  | complete
  deriving DecidableEq, Repr, Inhabited

namespace Phase

/-- All phases, in their order. -/
def all : List Phase :=
  [initialization, lintFixes, buildFixes, complexityReduction, satdCleanup, coverageDriven, qualityValidation, complete]

def name : Phase → String
  | initialization => "Initialization"
  | lintFixes => "LintFixes"
  | buildFixes => "BuildFixes"
  | complexityReduction => "ComplexityReduction"
  | satdCleanup => "SatdCleanup"
  | coverageDriven => "CoverageDriven"
  | qualityValidation => "QualityValidation"
  | complete => "Complete"

def ofName? (text : String) : Option Phase := all.find? fun p => p.name = text

instance : Encode Phase := ⟨fun p => .str p.name⟩
instance : Decode Phase := ⟨fun j => j.str?.bind ofName?⟩

end Phase

section Generic

variable {ν : Type} [Arithmetic ν]

/-- Whether metrics keep all limits of a profile. -/
def meetsGates (m : MetricsOf ν) (p : ProfileOf ν) : Bool :=
  atMost p.coverageMin m.coveragePercent && atMost m.maxComplexity p.complexityMax && atMost m.satdCount p.satdAllowed &&
    equal m.totalViolations (whole 0)

/-- The phase of work that metrics call for. -/
def phaseOf (m : MetricsOf ν) (p : ProfileOf ν) : Phase :=
  if less (whole 0) m.totalViolations then .lintFixes
  else if less p.complexityMax m.maxComplexity then .complexityReduction
  else if less p.satdAllowed m.satdCount then .satdCleanup
  else if less m.coveragePercent p.coverageMin then .coverageDriven
  else .qualityValidation

/-- How far a project has come, in percent, as a whole and by component. -/
structure Completion (ν : Type) where
  lint : ν
  complexity : ν
  satd : ν
  coverage : ν
  overall : ν
  deriving DecidableEq

/-- The share of a total that is left when some part is taken away, in percent. -/
def shareWithout (part total : ν) : ν := clampPercent (whole 100 * (total - part) / total)

/-- How much each component weighs in the whole, in tenths: lint, complexity, debt and coverage. -/
def progressWeights : List Int := [3, 3, 2, 2]

/-- The completion that metrics show, before rounding. Debt is measured against the most that has been seen of it. -/
def Completion.of (m : MetricsOf ν) (p : ProfileOf ν) (satdBaseline : ν) : Completion ν :=
  let lint :=
    if equal m.totalViolations (whole 0) || equal m.totalFiles (whole 0) then whole 100
    else shareWithout m.filesWithIssues m.totalFiles
  let complexity :=
    if atMost m.maxComplexity p.complexityMax || equal m.totalFunctions (whole 0) then whole 100
    else shareWithout m.functionsWithHighComplexity m.totalFunctions
  let baseline := larger satdBaseline m.satdCount
  let satd := if equal baseline (whole 0) then whole 100 else shareWithout m.satdCount baseline
  let coverage := clampPercent m.coveragePercent
  let overall := constant 3 1 * lint + constant 3 1 * complexity + constant 2 1 * satd + constant 2 1 * coverage
  { lint, complexity, satd, coverage, overall }

/-- Each percentage rounded to one place. -/
def Completion.rounded (c : Completion ν) : Completion ν :=
  { lint := round1 c.lint, complexity := round1 c.complexity, satd := round1 c.satd, coverage := round1 c.coverage,
    overall := round1 c.overall }

/-- The minutes that the rest of the work takes at the pace so far. Up to 5% the pace tells nothing yet, and the whole is taken to
be twenty times what has passed. -/
def remainingMinutes (elapsedSeconds overallPercent : ν) : ν :=
  let elapsed := larger (whole 0) elapsedSeconds
  let total := if less (whole 5) overallPercent then elapsed / (overallPercent / whole 100) else elapsed * whole 20
  round1 (larger (whole 0) ((total - elapsed) / whole 60))

end Generic

/-- The gates that hold and those that do not, in words. -/
structure GateReport where
  passed : List String
  remaining : List String
  deriving DecidableEq, Repr

instance : Encode GateReport where
  encode r := .obj [("passed", encode r.passed), ("remaining", encode r.remaining)]

/-- One gate in words: on the left when it holds, else on the right. -/
def gateLines (m : Metrics) (p : Profile) : List (String ⊕ String) :=
  let coverage := m.coveragePercent.fixed 1
  [if m.totalViolations.same 0 then .inl "Lint: zero violations" else .inr s!"Fix {m.totalViolations} lint violations",
   if m.maxComplexity.le p.complexityMax then .inl s!"Complexity: max {m.maxComplexity} ≤ {p.complexityMax}"
   else .inr s!"Reduce max complexity from {m.maxComplexity} to ≤ {p.complexityMax}",
   if m.satdCount.le p.satdAllowed then .inl s!"SATD: {m.satdCount} ≤ {p.satdAllowed}"
   else .inr s!"Resolve {m.satdCount - p.satdAllowed} SATD items",
   if p.coverageMin.le m.coveragePercent then .inl s!"Coverage: {coverage}% ≥ {p.coverageMin}%"
   else .inr s!"Improve coverage from {coverage}% to ≥ {p.coverageMin}%"]

/-- The gates that hold and those that do not. -/
def describeGates (m : Metrics) (p : Profile) : GateReport where
  passed := (gateLines m p).filterMap Sum.getLeft?
  remaining := (gateLines m p).filterMap Sum.getRight?

/-- The progress of a project as it is recorded and shown. -/
structure Progress where
  overallCompletionPercent : Number
  lintCompletionPercent : Number
  complexityCompletionPercent : Number
  satdCompletionPercent : Number
  coverageCompletionPercent : Number
  filesCompleted : Number
  filesRemaining : Number
  estimatedTimeRemainingMinutes : Number
  qualityGatesPassed : List String
  qualityGatesRemaining : List String
  currentPhase : Phase
  deriving DecidableEq, Inhabited

instance : Encode Progress where
  encode p :=
    .obj [("overallCompletionPercent", encode p.overallCompletionPercent),
      ("lintCompletionPercent", encode p.lintCompletionPercent),
      ("complexityCompletionPercent", encode p.complexityCompletionPercent),
      ("satdCompletionPercent", encode p.satdCompletionPercent),
      ("coverageCompletionPercent", encode p.coverageCompletionPercent), ("filesCompleted", encode p.filesCompleted),
      ("filesRemaining", encode p.filesRemaining),
      ("estimatedTimeRemainingMinutes", encode p.estimatedTimeRemainingMinutes),
      ("qualityGatesPassed", encode p.qualityGatesPassed), ("qualityGatesRemaining", encode p.qualityGatesRemaining),
      ("currentPhase", encode p.currentPhase)]

instance : Decode Progress where
  decode? j := do
    return { overallCompletionPercent := j.fieldD "overallCompletionPercent" 0,
             lintCompletionPercent := j.fieldD "lintCompletionPercent" 0,
             complexityCompletionPercent := j.fieldD "complexityCompletionPercent" 0,
             satdCompletionPercent := j.fieldD "satdCompletionPercent" 0,
             coverageCompletionPercent := j.fieldD "coverageCompletionPercent" 0,
             filesCompleted := j.fieldD "filesCompleted" 0, filesRemaining := j.fieldD "filesRemaining" 0,
             estimatedTimeRemainingMinutes := j.fieldD "estimatedTimeRemainingMinutes" 0,
             qualityGatesPassed := j.fieldD "qualityGatesPassed" [],
             qualityGatesRemaining := j.fieldD "qualityGatesRemaining" [],
             currentPhase := j.fieldD "currentPhase" .initialization }

/-- What progress is computed from; a phase that is not given follows from the metrics. -/
structure ProgressInput where
  metrics : Metrics
  profile : Profile
  satdBaseline : Number
  filesCompleted : Number
  elapsedSeconds : Number
  phase : Option Phase
  deriving Inhabited

instance : Decode ProgressInput where
  decode? j := do
    return { metrics := j.fieldD "metrics" Metrics.empty, profile := j.fieldD "profile" Profile.extreme,
             satdBaseline := j.fieldD "satdBaseline" .nan, filesCompleted := j.fieldD "filesCompleted" .nan,
             elapsedSeconds := j.fieldD "elapsedSeconds" .nan, phase := j.fieldD "phase" none }

/-- The progress that metrics show. -/
def computeProgress (input : ProgressInput) : Progress :=
  let completion := Completion.of input.metrics input.profile input.satdBaseline
  let shown := completion.rounded
  let gates := describeGates input.metrics input.profile
  { overallCompletionPercent := shown.overall, lintCompletionPercent := shown.lint,
    complexityCompletionPercent := shown.complexity, satdCompletionPercent := shown.satd,
    coverageCompletionPercent := shown.coverage, filesCompleted := input.filesCompleted,
    filesRemaining := Number.max 0 (input.metrics.totalFiles - input.filesCompleted),
    estimatedTimeRemainingMinutes := remainingMinutes input.elapsedSeconds completion.overall,
    qualityGatesPassed := gates.passed, qualityGatesRemaining := gates.remaining,
    currentPhase := input.phase.getD (phaseOf input.metrics input.profile) }

end QualityGate
