import QualityGate.Lock
import QualityGate.Refactor.Loop
import QualityGate.Settings
import QualityGate.State.Store

/-!
# The refactor command

A run with everything that belongs to it: the project and its cache are found, the cache lock is held from then on to the end, the
files that the flags name are read, and the loop works with the tools of the world. The lock is given up whatever happens.
-/

namespace QualityGate

/-- What the refactor command is given. -/
structure RefactorCommand (η : Type) where
  flags : RefactorFlags
  settings : Settings
  cwd : String
  tools : Tools η
  tracker : IssueTracker η

namespace RefactorCommand

variable {η : Type}

/-- The directories of the run, seen from the command's own directory. -/
def contextFor (c : RefactorCommand η) (root : String) : Context :=
  Context.of c.cwd root (c.flags.cacheDir <|> c.settings.cacheDir)

/-- Where templates come from. -/
def templatesPath (c : RefactorCommand η) : Option String := c.flags.templates <|> c.settings.templatesPath

/-- The analyses of the run. The run itself holds the cache lock, so that they need not take it. -/
def analyzerFor (c : RefactorCommand η) (context : Context) : Analyzer η where
  tools := c.tools
  context := context
  concurrency := c.settings.concurrency
  coverageTimeoutMs := c.settings.coverageTimeoutMs.toInt?.getD 0
  coverageLock := none
  templatesPath := c.templatesPath

/-- The agent that flags or settings name, if any. -/
def agentFor (c : RefactorCommand η) (root : String) : Except Failure (Option (RewriteAgent η)) :=
  match c.flags.agentCommand <|> c.settings.agentCommand with
  | some command => (commandAgent c.tools root command).map some
  | none => .ok none

/-- The gauge of the run. -/
def gaugeFor (c : RefactorCommand η) (context : Context) (root : String) (filters : Filters) : QualityGauge η :=
  let analyzer := c.analyzerFor context
  Gauge.Setup.gauge
    { analyzer, router := analyzer.router, projectPath := root, filters, profile := c.flags.profile,
      toolchain := c.flags.toolchain }

/-- The run, once the lock is held. -/
def runLocked (c : RefactorCommand η) (mode : RefactorMode) (project : Project) (context : Context) :
    Action η RefactorOutcome := do
  let root := project.root
  let filters ← c.flags.filters c.cwd
  let templates ← TemplateSource.load c.templatesPath
  let targets ← ModeTargets.ofMode root project.toolchain c.tracker mode
  Action.log .info "refactor starting" [("mode", .str mode.name), ("root", .str root)]
  let agent ← Action.ofExcept (c.agentFor root)
  Refactor.refactor
    { gauge := c.gaugeFor context root filters, load := StateStore.load context.cacheDir,
      save := StateStore.save context.cacheDir, rewriter := Rewrite.withTemplates c.tools templates.templates,
      verifyBuild := checkBuild c.tools root project.toolchain, agent, showProgress := Action.print .err,
      showRequest := Action.print .out }
    { projectRoot := root, cacheDir := context.cacheDir, maxIterations := c.flags.maxIterations, profile := c.flags.profile,
      filters, dryRun := c.flags.dryRun, targets }

/-- Runs the command; the result is its exit code. -/
def run (c : RefactorCommand η) : Action η Nat := do
  let mode ← Action.ofExcept c.flags.mode
  let project ← Project.find c.cwd c.flags.projectPath c.flags.toolchain
  let context := c.contextFor project.root
  Lock.holding context.cacheDir c.settings.lockStaleMs do
    let outcome ← c.runLocked mode project context
    Action.print .out (outcome.summary c.flags.format)
    return outcome.status.exitCode (c.flags.ciMode || c.settings.ci)

end RefactorCommand

end QualityGate
