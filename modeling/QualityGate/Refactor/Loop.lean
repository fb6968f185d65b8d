import QualityGate.Refactor.Agent
import QualityGate.Refactor.Build
import QualityGate.Refactor.Gauge
import QualityGate.Refactor.Outcome
import QualityGate.Refactor.Rewriter

/-!
# The refactor loop

A run measures a project, chooses a file, rewrites it, checks that the project still builds, and measures again, until all quality
gates pass, nothing is left to do, nothing changes any more, or its budget of iterations is spent. Who measures, rewrites, answers
requests, checks builds and keeps the state is up to the caller; each may do anything to the world.

A file is copied to a backup before it is rewritten. When the rewrite does not come to a good build, whatever the reason, the backup
goes back to its place.
-/

namespace QualityGate

/-- Who a run works with. -/
structure Collaborators (η : Type) where
  gauge : QualityGauge η
  load : Action η (Option RefactorState)
  save : RefactorState → Action η Unit
  rewriter : Rewriter η
  verifyBuild : Action η BuildCheck
  agent : Option (RewriteAgent η)
  showProgress : String → Action η Unit
  showRequest : String → Action η Unit
  /-- What goes on outside while the run is at work, such as a signal that comes in; the run sees it as it goes on. -/
  pause : Action η Unit := pure ()

/-- What a run is to do. -/
structure RunConfig where
  projectRoot : String
  cacheDir : String
  maxIterations : Number
  profile : Profile
  filters : Filters
  dryRun : Bool
  targets : ModeTargets
  deriving Inhabited

/-- How far a run has come. -/
structure Run where
  state : RefactorState
  phases : List Phase
  requests : List RewriteRequest := []
  iterations : Nat := 0
  /-- The files that a dry run has looked at. -/
  skipped : List String := []
  context : Option DeepContext := none
  contextMarkdown : String := ""
  message : String := ""
  deriving Inhabited

/-- What may fail and may change the world and the run; a failure loses neither. -/
abbrev RunAction (η α : Type) := ExceptT Failure (StateT Run (StateM (World η))) α

namespace RunAction

variable {η α : Type}

/-- Does something that leaves the run as it is. -/
def act (a : Action η α) : RunAction η α := fun run world =>
  let (result, after) := a.run world
  ((result, run), after)

def run : RunAction η Run := getThe Run

def change (f : Run → Run) : RunAction η Unit := modifyThe Run f

/-- How something ends, as a value. -/
def observe (a : RunAction η α) : RunAction η (Except Failure α) := fun run world =>
  let ((result, run), after) := a run world
  ((.ok result, run), after)

def changeState (f : RefactorState → RefactorState) : RunAction η Unit := change fun r => { r with state := f r.state }

/-- Says how the run has ended. -/
def tell (message : String) : RunAction η Unit := change fun r => { r with message }

/-- Writes a phase down, unless the run is in it already. -/
def enter (phase : Phase) : RunAction η Unit :=
  change fun r => if r.phases.getLast? = some phase then r else { r with phases := r.phases ++ [phase] }

/-- Goes no further once the user has canceled, by what has gone on outside. -/
def checkCanceled (pause : Action η Unit) : RunAction η Unit := do
  act pause
  if (← act Action.world).canceled then throw (.canceled "Refactor canceled by signal")

end RunAction

namespace Refactor

open RunAction

variable {η : Type}

/-- After this many iterations the context is made anew. -/
def contextInterval : Nat := 5

/-- What the name of a backup adds to that of its file. -/
def backupSuffix : String := ".backup"

/-- The path of a file of the project. -/
def pathIn (cfg : RunConfig) (file : String) : String := Path.join [cfg.projectRoot, file]

def backupOf (path : String) : String := path ++ backupSuffix

/-- The seconds since a run began. -/
def elapsedSeconds (startTime : String) (now : Instant) : Number :=
  match Instant.ofText? startTime with
  | some start => Number.ofInt (now - start) / 1000
  | none => .nan

/-- The state with the progress that it shows now, in a phase. -/
def withProgress (cfg : RunConfig) (now : Instant) (phase : Phase) (s : RefactorState) : RefactorState :=
  { s with progress := computeProgress ⟨s.qualityMetrics, cfg.profile, s.satdBaseline, .ofNat s.filesCompleted.length,
      elapsedSeconds s.startTime now, some phase⟩ }

def updateProgress (cfg : RunConfig) (phase : Phase) : RunAction η Unit := do
  let now ← act Action.now
  changeState (withProgress cfg now phase)

/-! ## Choosing -/

/-- Whether the context has to be made anew. -/
def contextIsDue (r : Run) : Bool :=
  r.context.isNone || r.state.iteration.toInt?.any fun i => i % (contextInterval : Int) = 0

def refreshContext (who : Collaborators η) : RunAction η Unit := do
  if contextIsDue (← run) then
    let context ← act who.gauge.context
    change fun r => { r with context := some context, contextMarkdown := context.markdown }
    let r ← run
    act (Action.writeText r.state.contextPath r.contextMarkdown)
    changeState fun s => { s with contextGenerated := true }

/-- The state with what a measurement shows. -/
def measured (metrics : Metrics) (s : RefactorState) : RefactorState :=
  { s with iteration := s.iteration + 1, qualityMetrics := metrics,
           satdBaseline := Number.max s.satdBaseline metrics.satdCount }

/-- What the next file is chosen by. -/
def selectionInput (cfg : RunConfig) (r : Run) (sample : QualitySample) (coverageDriven : Bool) : SelectionInput where
  profile := cfg.profile
  metrics := sample.metrics
  filters := cfg.filters
  filesCompleted := r.state.filesCompleted
  targets := cfg.targets.targetSet
  skipped := r.skipped
  violations := sample.violations
  compilationErrors := sample.compilationErrors
  coverageByFile := sample.coverageByFile
  sourceFiles := sample.sourceFiles
  complexity := sample.complexity
  satdByFile := sample.satdByFile
  issueKeywords := (cfg.targets.issue.map (·.keywords)).getD []
  coverageDriven := coverageDriven

/-- The next file. When the build fails without naming a file, coverage comes first. -/
def select (cfg : RunConfig) (r : Run) (sample : QualitySample) : Selection :=
  match selectTarget (selectionInput cfg r sample sample.unparsedBuildFailure) with
  | .selected target => .selected target
  | .exhausted reason =>
    if sample.unparsedBuildFailure then selectTarget (selectionInput cfg r sample false) else .exhausted reason

/-- Whether a choice is the last one over again, under the same metrics. -/
def stalled (s : RefactorState) (metrics : Metrics) (file : String) : Bool :=
  s.lastMetrics.any (·.same metrics) && s.lastTarget == some file

/-! ## Rewriting -/

/-- The findings that a target is chosen for. -/
def findingsOf (sample : QualitySample) (target : Target) : List Violation :=
  if target.tier = .build then
    (sample.compilationErrors.filter fun e => normalizePath e.file = target.file).map CompilationError.toViolation
  else sample.violations.filter fun v => normalizePath v.file = target.file

/-- The cached coverage of a file. What every record answers to the name of a file is no number. -/
def coverageOf (sample : QualitySample) (file : String) : Number := sample.coverageByFile.numberOr file 0

/-- A file's outline; its functions are those of the context, when the context knows the file. -/
def outlineOf (r : Run) (file content : String) (t : Toolchain) : Outline :=
  let shown := outline t content.toList
  match r.context.bind (·.functionsOf? file) with
  | some functions => { shown with functions }
  | none => shown

/-- The plan for a target. -/
def planFor (cfg : RunConfig) (r : Run) (sample : QualitySample) (target : Target) (standing : Option String) : RewritePlan :=
  let found := findingsOf sample target
  let coverage := coverageOf sample target.file
  let needsTests := target.tier ≠ .build ∧ coverage.lt cfg.profile.coverageMin
  buildPlan
    { filePath := target.file, content := standing.map (·.toList), toolchain := sample.toolchain,
      violations := if needsTests then found ++ [missingTestsViolation target.file coverage cfg.profile] else found,
      outline := outlineOf r target.file (standing.getD "") sample.toolchain, profile := cfg.profile }

/-- Puts a file back as it was: its backup in its place, or nothing when there was none. -/
def restore (path : String) (existed : Bool) : Action η Unit :=
  if existed then Action.rename (backupOf path) path else Action.remove path

/-- What has come of a rewrite, up to the build check. -/
inductive Rewritten where
  /-- The run is over, and the file is as it was. -/
  | stopped (status : RefactorStatus)
  /-- The new text stands and its build was checked; perhaps a request is still unanswered. -/
  | checked (awaiting : Bool) (build : BuildCheck)
  deriving DecidableEq, Repr, Inhabited

/-- What has come of an attempt at a target. -/
inductive Attempted where
  /-- The run is over, and the file is as it was. -/
  | stopped (status : RefactorStatus)
  /-- The project builds with the new text; perhaps a request is still unanswered. -/
  | built (awaiting : Bool)
  deriving DecidableEq, Repr, Inhabited

/-- The request about a rewritten file. -/
def requestFor (cfg : RunConfig) (r : Run) (file : String) (rewrite : RewriteOutcome) (remaining : List Violation)
    (coverage : Number) : RewriteRequest :=
  .build
    { file, content := rewrite.content, context := DeepContext.sectionOf? r.contextMarkdown file, violations := remaining,
      coverage, profile := cfg.profile, issue := cfg.targets.issue, bugReport := cfg.targets.bugReport }

/-- Whether a failure is one of the agent's own. -/
def isAgentFailure : Failure → Bool
  | .commandFailed .. | .unreadableAnswer _ => true
  | _ => false

/-- Puts an agent's answer in its place. -/
def writeAnswer (cfg : RunConfig) (request : RewriteRequest) (answer : AgentAnswer) : Action η Unit := do
  Action.writeText (pathIn cfg request.file) answer.sourceCode
  match answer.testCode with
  | some tests => Action.writeText (pathIn cfg request.tests.path) tests
  | none => pure ()

/-- Asks the agent; none when it has failed and the file is as it was. -/
def askAgent (who : Collaborators η) (cfg : RunConfig) (agent : RewriteAgent η) (request : RewriteRequest) (existed : Bool) :
    RunAction η (Option RefactorStatus) := do
  match ← act (Action.observe (agent request)) with
  | .ok answer =>
    checkCanceled who.pause
    act (writeAnswer cfg request answer)
    return none
  | .error failure =>
    if !isAgentFailure failure then throw failure
    act (restore (pathIn cfg request.file) existed)
    act (Action.log .warn "rewrite agent failed; file restored from backup" [("file", .str request.file)])
    tell s!"Rewrite agent failed for {request.file}: {failure.message}; apply the request and run again"
    return some .awaitingRewrite

/-- Has the build checked. -/
def verifyRewrite (who : Collaborators η) (awaiting : Bool) : RunAction η Rewritten := do
  checkCanceled who.pause
  return .checked awaiting (← act who.verifyBuild)

/-- Shows a request and has the agent answer it, if there is one, and the build checked. -/
def requestRewrite (who : Collaborators η) (cfg : RunConfig) (request : RewriteRequest) (existed : Bool) :
    RunAction η Rewritten := do
  change fun r => { r with requests := r.requests ++ [request] }
  act (who.showRequest request.text)
  match who.agent with
  | none => verifyRewrite who true
  | some agent =>
    match ← askAgent who cfg agent request existed with
    | some status => return .stopped status
    | none => verifyRewrite who false

/-- Requests what the rewriter has left to be done, and has the build checked. -/
def completeRewrite (who : Collaborators η) (cfg : RunConfig) (sample : QualitySample) (target : Target)
    (existed : Bool) (rewrite : RewriteOutcome) : RunAction η Rewritten := do
  let coverage := coverageOf sample target.file
  let remaining := remainingViolations target.file rewrite (findingsOf sample target) sample.toolchain cfg.profile
  if remaining.isEmpty ∧ !coverage.lt cfg.profile.coverageMin then
    verifyRewrite who false
  else
    requestRewrite who cfg (requestFor cfg (← run) target.file rewrite remaining coverage) existed

/-- Rewrites a target and has the build checked. -/
def rewriteAndCheck (who : Collaborators η) (cfg : RunConfig) (sample : QualitySample) (target : Target) (standing : Option String)
    (plan : RewritePlan) : RunAction η Rewritten := do
  let file := target.file
  checkCanceled who.pause
  let rewrite ← act (who.rewriter ⟨cfg.projectRoot, file, standing.getD "", sample.toolchain, plan, findingsOf sample target⟩)
  if !rewrite.applied.isEmpty then
    act (Action.log .info "built-in rewrite applied" [("file", .str file), ("applied", .strings rewrite.applied)])
  completeRewrite who cfg sample target standing.isSome rewrite

/-- Lets the new text stand when the build is good, and puts the file back when it is broken. -/
def concludeBuild (cfg : RunConfig) (file : String) (existed awaiting : Bool) (build : BuildCheck) : RunAction η Attempted := do
  let path := pathIn cfg file
  if build.ok then
    act (Action.remove (backupOf path))
    return .built awaiting
  act (restore path existed)
  act (Action.log .warn "build check failed; file restored from backup"
    [("file", .str file), ("output", .str (String.ofList (takeUnits 2000 build.output.toList)))])
  tell s!"Build check failed after rewriting {file}; the file was restored"
  return .stopped .buildBroken

/-- Rewrites a target and concludes from the build check. -/
def attempt (who : Collaborators η) (cfg : RunConfig) (sample : QualitySample) (target : Target) (standing : Option String)
    (plan : RewritePlan) : RunAction η Attempted := do
  match ← rewriteAndCheck who cfg sample target standing plan with
  | .stopped status => return .stopped status
  | .checked awaiting build => concludeBuild cfg target.file standing.isSome awaiting build

/-- Keeps a copy of a file that is there. -/
def backUp (path : String) (existed : Bool) : Action η Unit :=
  if existed then Action.copy path (backupOf path) else pure ()

/-- Attempts a target with a backup at hand; whatever fails, the file is put back. -/
def rewriteTarget (who : Collaborators η) (cfg : RunConfig) (sample : QualitySample) (target : Target) (standing : Option String)
    (plan : RewritePlan) : RunAction η Attempted := do
  let path := pathIn cfg target.file
  act (backUp path standing.isSome)
  match ← observe (attempt who cfg sample target standing plan) with
  | .error failure =>
    act (restore path standing.isSome)
    throw failure
  | .ok attempted => return attempted

/-- Whether a measurement of a file leaves nothing to be done. -/
def meetsGoals (p : Profile) (s : FileSample) : Bool := p.coverageMin.le s.coverage && s.violations.isEmpty

/-- Measures a rewritten file and counts it as done when nothing is left to do. -/
def concludeTarget (who : Collaborators η) (cfg : RunConfig) (file : String) : RunAction η Unit := do
  let sample ← act (who.gauge.measureFile file)
  if meetsGoals cfg.profile sample then
    let s := (← run).state
    if !s.filesCompleted.contains file then
      changeState fun s => { s with filesCompleted := s.filesCompleted ++ [file] }
      updateProgress cfg s.progress.currentPhase
  else
    act (Action.log .info "file still short of its goals"
      [("file", .str file), ("coverage", encode sample.coverage), ("violations", encode sample.violations.length)])

/-- Goes on behind an attempt; a status ends the run. -/
def concludeAttempt (who : Collaborators η) (cfg : RunConfig) (file : String) : Attempted → RunAction η (Option RefactorStatus)
  | .stopped status => return some status
  | .built true => do
    tell s!"Rewrite request emitted for {file}; apply it and run again"
    return some .awaitingRewrite
  | .built false => do
    concludeTarget who cfg file
    return none

/-- Works on a target; a status ends the run. -/
def processTarget (who : Collaborators η) (cfg : RunConfig) (sample : QualitySample) (target : Target) :
    RunAction η (Option RefactorStatus) := do
  let standing ← act (Action.readText? (pathIn cfg target.file))
  let plan := planFor cfg (← run) sample target standing
  if cfg.dryRun then
    act (who.showProgress plan.text)
    change fun r => { r with skipped := r.skipped ++ [target.file] }
    return none
  concludeAttempt who cfg target.file (← rewriteTarget who cfg sample target standing plan)

/-! ## Iterating -/

/-- What an iteration begins with: the run is over, or a file is chosen by a measurement. -/
inductive Survey where
  | ended (status : RefactorStatus)
  | chosen (sample : QualitySample) (target : Target)
  deriving DecidableEq, Inhabited

/-- Chooses a file by a measurement. -/
def choose (who : Collaborators η) (cfg : RunConfig) (sample : QualitySample) : RunAction η Survey := do
  match select cfg (← run) sample with
  | .exhausted reason =>
    act (who.showProgress (progressBlock (← run).state none))
    tell reason
    return .ended .complete
  | .selected target => return .chosen sample target

/-- Measures the project and chooses a file. -/
def survey (who : Collaborators η) (cfg : RunConfig) : RunAction η Survey := do
  refreshContext who
  checkCanceled who.pause
  let sample ← act who.gauge.measure
  let phase := phaseOf sample.metrics cfg.profile
  changeState (measured sample.metrics)
  updateProgress cfg phase
  enter phase
  if meetsGates sample.metrics cfg.profile then
    act (who.showProgress (progressBlock (← run).state none))
    tell "All quality gates passed"
    return .ended .complete
  if sample.unparsedBuildFailure then
    act (Action.log .warn "build fails without a diagnostic naming a file; selecting by coverage instead")
  choose who cfg sample

/-- Turns to the chosen file and tells whether it is the last choice over again. -/
def turnTo (who : Collaborators η) (cfg : RunConfig) (sample : QualitySample) (target : Target) : RunAction η Bool := do
  if target.tier = .build then
    updateProgress cfg .buildFixes
    enter .buildFixes
  let again := stalled (← run).state sample.metrics target.file
  changeState fun s =>
    { s with currentFile := some target.file, lastTarget := some target.file, lastMetrics := some sample.metrics }
  act (who.showProgress (progressBlock (← run).state (some target)))
  return again

/-- One iteration; a status ends the run. -/
def iterate (who : Collaborators η) (cfg : RunConfig) : RunAction η (Option RefactorStatus) := do
  match ← survey who cfg with
  | .ended status => return some status
  | .chosen sample target =>
    if ← turnTo who cfg sample target then
      tell s!"No progress: {target.file} was selected again with unchanged metrics"
      return some .noProgress
    processTarget who cfg sample target

/-- How many iterations a budget allows. -/
def budgetOf (maxIterations : Number) : Nat := maxIterations.ceil.toNat?.getD 0

/-- Iterates until the run ends or its budget is spent. -/
def iterations (who : Collaborators η) (cfg : RunConfig) : Nat → RunAction η RefactorStatus
  | 0 => do
    tell s!"Iteration budget of {cfg.maxIterations.text} exhausted"
    return .budgetExhausted
  | budget + 1 => do
    checkCanceled who.pause
    change fun r => { r with iterations := r.iterations + 1 }
    match ← iterate who cfg with
    | some status => return status
    | none =>
      act (who.save (← run).state)
      iterations who cfg budget

/-- Saves the state a last time and tells what has come of the run. -/
def finish (who : Collaborators η) (cfg : RunConfig) (status : RefactorStatus) : RunAction η RefactorOutcome := do
  if status = .complete then
    updateProgress cfg .complete
    enter .complete
  let r ← run
  act (who.save r.state)
  return ⟨status, r.iterations, r.state, r.phases, r.requests, r.message⟩

/-- A whole run: its iterations and its end. A run that is canceled ends in order too. -/
def wholeRun (who : Collaborators η) (cfg : RunConfig) : RunAction η RefactorOutcome := do
  match ← observe (do finish who cfg (← iterations who cfg (budgetOf cfg.maxIterations))) with
  | .ok outcome => return outcome
  | .error (.canceled message) =>
    act (Action.log .info "refactor canceled" [("iteration", encode (← run).state.iteration)])
    tell message
    finish who cfg .canceled
  | .error failure => throw failure

/-- The run that goes on from a state. -/
def startFrom (cfg : RunConfig) (s : RefactorState) : Run :=
  let state := { s with contextPath := RefactorState.contextPathIn cfg.cacheDir }
  { state, phases := [state.progress.currentPhase] }

/-- Runs the loop from the saved state, or afresh when there is none. -/
def refactor (who : Collaborators η) (cfg : RunConfig) : Action η RefactorOutcome := do
  let loaded ← who.load
  let now ← Action.now
  let start := startFrom cfg (loaded.getD (RefactorState.initial cfg.cacheDir now))
  fun world =>
    let ((result, _), after) := (wholeRun who cfg) start world
    (result, after)

end Refactor

end QualityGate
