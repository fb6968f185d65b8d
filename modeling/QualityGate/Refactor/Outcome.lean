import QualityGate.Json.KeyCase
import QualityGate.Json.Printer
import QualityGate.Plan
import QualityGate.Refactor.Flags
import QualityGate.Refactor.Request
import QualityGate.Selection
import QualityGate.State

/-!
# How a run ends, and what it tells

The outcome of a run, and the texts that tell of a run while it goes on and at its end.
-/

namespace QualityGate

/-- How a run ends. -/
inductive RefactorStatus where
  | complete
  | budgetExhausted
  | buildBroken
  | noProgress
  | awaitingRewrite
  | canceled
  deriving DecidableEq, Repr, Inhabited

namespace RefactorStatus

def all : List RefactorStatus := [complete, budgetExhausted, buildBroken, noProgress, awaitingRewrite, canceled]

def name : RefactorStatus → String
  | complete => "Complete"
  | budgetExhausted => "BudgetExhausted"
  | buildBroken => "BuildBroken"
  | noProgress => "NoProgress"
  | awaitingRewrite => "AwaitingRewrite"
  | canceled => "Canceled"

instance : Encode RefactorStatus := ⟨fun s => .str s.name⟩
instance : Decode RefactorStatus := ⟨fun j => j.str?.bind fun text => all.find? fun s => s.name = text⟩

/-- The exit code of the command. Only when nobody watches does a run that is not complete fail, and cancelling never does. -/
def exitCode (s : RefactorStatus) (ci : Bool) : Nat := if s = complete ∨ s = canceled ∨ !ci then 0 else 1

end RefactorStatus

/-- What has come of a run. -/
structure RefactorOutcome where
  status : RefactorStatus
  iterations : Nat
  state : RefactorState
  phases : List Phase
  requests : List RewriteRequest
  message : String
  deriving Inhabited

/-- The outcome, with each request shown by the file that it is about. -/
instance : Encode RefactorOutcome where
  encode o :=
    .obj [("status", encode o.status), ("iterations", encode o.iterations), ("state", encode o.state),
      ("phases", encode o.phases), ("requests", .strings (o.requests.map (·.file))), ("message", encode o.message)]

instance : Decode RefactorOutcome where
  decode? j := do
    return { status := j.fieldD "status" .complete, iterations := j.fieldD "iterations" 0,
             state := j.fieldD "state" default, phases := j.fieldD "phases" [], requests := [],
             message := j.fieldD "message" "" }

def percentText (x : Number) : String := x.fixed 1 ++ "%"

/-- How far a run is, and what it turns to. -/
def progressBlock (s : RefactorState) (target : Option Target) : String :=
  let p := s.progress
  let lines :=
    [s!"Iteration {s.iteration.text} | Phase: {p.currentPhase.name} | Overall {percentText p.overallCompletionPercent}",
      s!"  Lint {percentText p.lintCompletionPercent} | Complexity {percentText p.complexityCompletionPercent} | " ++
        s!"SATD {percentText p.satdCompletionPercent} | Coverage {percentText p.coverageCompletionPercent}",
      s!"  Files completed: {p.filesCompleted.text} (remaining {p.filesRemaining.text}) | " ++
        s!"ETA {p.estimatedTimeRemainingMinutes.text} min"]
  let aim := target.toList.map fun t => s!"  Target: {t.file} [{t.tier.name}] {t.reason}"
  let gates := Text.join "; " p.qualityGatesRemaining
  let open_ := if p.qualityGatesRemaining.isEmpty then [] else [s!"  Remaining gates: {gates}"]
  Text.join "\n" (lines ++ aim ++ open_) ++ "\n"

/-- What a plan is about to do. -/
def RewritePlan.text (p : RewritePlan) : String :=
  let count := p.violations.length
  let lines := p.violations.map fun v => s!"  {v.line}:{v.column} {v.lintName} -> {v.fixStrategy.describe}"
  Text.join "\n" (s!"Plan for {p.filePath} ({count} violations)" :: lines) ++ "\n"

namespace RefactorOutcome

/-- A run's summary around the given accounts of its progress and its metrics. -/
def summaryAround (o : RefactorOutcome) (progress metrics : Json) : String :=
  (KeyCase.snakeKeys [] (.obj [("status", encode o.status), ("iterations", encode o.iterations),
    ("filesCompleted", encode o.state.filesCompleted), ("progress", progress), ("metrics", metrics),
    ("message", encode o.message)])).pretty ++ "\n"

def bulletList (items : List String) : String := Text.join "\n" (items.map ("- " ++ ·))

/-- A run's summary as Markdown. -/
def summaryMarkdown (o : RefactorOutcome) : String :=
  let p := o.state.progress
  let m := o.state.qualityMetrics
  let gates (title : String) (names : List String) : List String := if names.isEmpty then [] else [title, bulletList names]
  let chapters :=
    ["## Refactor Summary",
      Text.join "\n" [s!"Status: **{o.status.name}**", s!"Iterations: {o.iterations}",
        s!"Overall completion: {percentText p.overallCompletionPercent}", s!"Phase: {p.currentPhase.name}"]] ++
    (if o.message = "" then [] else [o.message]) ++
    ["### Metrics",
      bulletList [
        s!"Lint violations: {m.totalViolations.text} in {m.filesWithIssues.text} of {m.totalFiles.text} files",
        s!"Coverage: {percentText m.coveragePercent}",
        s!"Max complexity: {m.maxComplexity.text} " ++
          s!"({m.functionsWithHighComplexity.text} of {m.totalFunctions.text} functions over the limit)",
        s!"SATD items: {m.satdCount.text}"]] ++
    gates "### Gates passed" p.qualityGatesPassed ++ gates "### Gates remaining" p.qualityGatesRemaining ++
    ["### Files completed",
      if o.state.filesCompleted.isEmpty then "None yet."
      else bulletList (o.state.filesCompleted.map fun f => s!"\x60{f}\x60")]
  Text.join "\n\n" chapters ++ "\n"

/-- A run's summary. -/
def summary (o : RefactorOutcome) : SummaryFormat → String
  | .json => o.summaryAround (encode o.state.progress) (encode o.state.qualityMetrics)
  | .markdown => o.summaryMarkdown

end RefactorOutcome

end QualityGate
