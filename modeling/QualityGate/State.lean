import QualityGate.Gates
import QualityGate.Schema
import QualityGate.Text.Path
import QualityGate.Time.Reading

/-!
# The state of the refactor loop

What a run of the loop leaves for the next one: how far it came, which files are done, and what it selected last under which
metrics. `RefactorState.check` says which JSON values are states.
-/

namespace QualityGate

structure RefactorState where
  iteration : Number
  startTime : String
  contextGenerated : Bool
  contextPath : String
  currentFile : Option String
  filesCompleted : List String
  qualityMetrics : Metrics
  progress : Progress
  satdBaseline : Number
  lastTarget : Option String
  lastMetrics : Option Metrics
  deriving DecidableEq, Inhabited

instance : Encode RefactorState where
  encode s :=
    .obj [("iteration", encode s.iteration), ("startTime", encode s.startTime),
      ("contextGenerated", encode s.contextGenerated), ("contextPath", encode s.contextPath),
      ("currentFile", encode s.currentFile), ("filesCompleted", encode s.filesCompleted),
      ("qualityMetrics", encode s.qualityMetrics), ("progress", encode s.progress),
      ("satdBaseline", encode s.satdBaseline), ("lastTarget", encode s.lastTarget),
      ("lastMetrics", encode s.lastMetrics)]

/-- Counts of what cannot be negative, and a coverage in percent. -/
def Metrics.check : Check Metrics := Check.object fun m =>
  MetricsOf.mk <$> Check.field m "totalViolations" Check.count <*> Check.field m "filesWithIssues" Check.count
    <*> Check.field m "totalFiles" Check.count
    <*> Check.field m "coveragePercent" (Check.atMost 100 (Check.atLeast 0 Check.number))
    <*> Check.field m "maxComplexity" Check.count <*> Check.field m "functionsWithHighComplexity" Check.count
    <*> Check.field m "totalFunctions" Check.count <*> Check.field m "satdCount" Check.count

def Progress.check : Check Progress := Check.object fun p =>
  Progress.mk <$> Check.field p "overallCompletionPercent" Check.number
    <*> Check.field p "lintCompletionPercent" Check.number <*> Check.field p "complexityCompletionPercent" Check.number
    <*> Check.field p "satdCompletionPercent" Check.number <*> Check.field p "coverageCompletionPercent" Check.number
    <*> Check.field p "filesCompleted" Check.count <*> Check.field p "filesRemaining" Check.count
    <*> Check.field p "estimatedTimeRemainingMinutes" Check.number
    <*> Check.field p "qualityGatesPassed" (Check.list Check.text)
    <*> Check.field p "qualityGatesRemaining" (Check.list Check.text)
    <*> Check.field p "currentPhase" (Check.oneOf (Phase.all.map Phase.name) Phase.ofName?)

namespace RefactorState

def check : Check RefactorState := Check.object fun s =>
  RefactorState.mk <$> Check.field s "iteration" Check.count <*> Check.field s "startTime" Check.text
    <*> Check.field s "contextGenerated" Check.bool <*> Check.field s "contextPath" Check.text
    <*> Check.field s "currentFile" (Check.nullable Check.text)
    <*> Check.field s "filesCompleted" (Check.must (Check.list Check.text) (fun files => decide files.Nodup)
      "files_completed must not repeat a path")
    <*> Check.field s "qualityMetrics" Metrics.check <*> Check.field s "progress" Progress.check
    <*> Check.field s "satdBaseline" (Check.orElse Check.count 0)
    <*> Check.field s "lastTarget" (Check.orElse (Check.nullable Check.text) none)
    <*> Check.field s "lastMetrics" (Check.orElse (Check.nullable Metrics.check) none)

/-- The file in a cache directory that holds the project context. -/
def contextPathIn (cacheDir : String) : String := Path.join [cacheDir, "deep_context.md"]

/-- The state of a run that starts fresh. -/
def initial (cacheDir : String) (now : Instant) : RefactorState where
  iteration := 0
  startTime := Instant.text now
  contextGenerated := false
  contextPath := contextPathIn cacheDir
  currentFile := none
  filesCompleted := []
  qualityMetrics := Metrics.empty
  progress := computeProgress ⟨Metrics.empty, Profile.extreme, 0, 0, 0, some .initialization⟩
  satdBaseline := 0
  lastTarget := none
  lastMetrics := none

end RefactorState

instance : Decode RefactorState where
  decode? j := do
    return { iteration := j.fieldD "iteration" 0, startTime := j.fieldD "startTime" "",
             contextGenerated := j.fieldD "contextGenerated" false, contextPath := j.fieldD "contextPath" "",
             currentFile := j.fieldD "currentFile" none, filesCompleted := j.fieldD "filesCompleted" [],
             qualityMetrics := j.fieldD "qualityMetrics" Metrics.empty, progress := j.fieldD "progress" default,
             satdBaseline := j.fieldD "satdBaseline" 0, lastTarget := j.fieldD "lastTarget" none,
             lastMetrics := j.fieldD "lastMetrics" none }

end QualityGate
