import QualityGate.Analysis.Project
import QualityGate.Diagnostics
import QualityGate.Json.Parser
import QualityGate.Schema

/-!
# Lint and compilation findings

What the linter and the compiler of a cargo project report. The linter writes one JSON message per line; each message about code is a
violation at its primary span.
-/

namespace QualityGate

namespace Clippy

/-- A stretch of code that a message is about. -/
structure CodeSpan where
  file : String
  lineStart : Int
  lineEnd : Int
  columnStart : Int
  columnEnd : Int
  isPrimary : Bool
  replacement : Option String
  applicability : Option String
  deriving DecidableEq, Repr, Inhabited

/-- Advice that goes with a message. -/
structure Advice where
  message : String
  level : String
  spans : List CodeSpan
  deriving DecidableEq, Repr, Inhabited

/-- A message of the linter about code. -/
structure Message where
  level : String
  message : String
  code : Option String
  spans : List CodeSpan
  children : List Advice
  deriving DecidableEq, Repr, Inhabited

def spanCheck : Check CodeSpan := Check.object fun s =>
  CodeSpan.mk <$> Check.field s "file_name" Check.text <*> Check.field s "line_start" Check.integer
    <*> Check.field s "line_end" Check.integer <*> Check.field s "column_start" Check.integer
    <*> Check.field s "column_end" Check.integer <*> Check.field s "is_primary" Check.bool
    <*> Check.field s "suggested_replacement" (Check.nullish Check.text)
    <*> Check.field s "suggestion_applicability" (Check.nullish Check.text)

def adviceCheck : Check Advice := Check.object fun a =>
  Advice.mk <$> Check.field a "message" Check.text <*> Check.field a "level" Check.text
    <*> Check.field a "spans" (Check.orElse (Check.list spanCheck) [])

def bodyCheck : Check Message := Check.object fun m =>
  Message.mk <$> Check.field m "level" Check.text <*> Check.field m "message" Check.text
    <*> Check.field m "code" (Check.nullish (Check.object fun c => Check.field c "code" Check.text))
    <*> Check.field m "spans" (Check.list spanCheck)
    <*> Check.field m "children" (Check.orElse (Check.list adviceCheck) [])

def messageCheck : Check Message := Check.object fun line =>
  (fun _ m => m) <$> Check.field line "reason" (Check.exactly "compiler-message") <*> Check.field line "message" bodyCheck

/-- The message on a line, if it is one about code. -/
def message? (line : List Char) : Option Message :=
  let text := trim line
  if text.head? = some '\x7b' then
    (Json.ofText? (String.ofList text)).bind fun j => (messageCheck (some j)).accepted?
  else none

def reportedLevels : List String := ["error", "warning", "note"]

/-- The path of a file in a project, given as the linter names it. -/
def pathIn (root base file : String) : String := normalizePath (Path.relative root (Path.resolve base file))

/-- The suggestion that a message makes: what to put in place, or else the help that goes with it. -/
def suggestion? (m : Message) : Option String :=
  let help := (m.children.find? fun a => a.level = "help").map (·.message)
  let suggestion := match (m.children.flatMap (·.spans)).findSome? (·.replacement) with
    | none | some "" => help
    | some code =>
      let lead := help.getD "replace with"
      some s!"{lead}: \x60{code}\x60"
  suggestion.filter (· ≠ "")

/-- The violation that a message reports. -/
def toViolation? (root base : String) (m : Message) : Option Violation := do
  if !reportedLevels.contains m.level then none
  let span ← (m.spans.find? (·.isPrimary)) <|> m.spans.head?
  return { file := pathIn root base span.file, line := span.lineStart, column := span.columnStart, endLine := span.lineEnd,
           endColumn := span.columnEnd, lintName := m.code.getD "rustc", message := m.message,
           severity := Severity.ofWord m.level, suggestion := suggestion? m,
           machineApplicable :=
             (span :: m.children.flatMap (·.spans)).any fun s => s.applicability = some "MachineApplicable" }

/-- The violations in the linter's output, with paths in a project whose workspace may stand above it. -/
def violations (output root workspace : String) : List Violation :=
  (splitLines output.toList).filterMap fun line => (message? line).bind (toViolation? root workspace)

end Clippy

/-- The lint findings of a project, with the tool that found them and how it ended. -/
structure LintAnalysis where
  findings : LintHotspot
  tool : String
  toolExitCode : Option Int
  deriving Inhabited

instance : Encode LintAnalysis where
  encode a :=
    match encode a.findings with
    | .obj fields => .obj (fields ++ [("tool", encode a.tool), ("toolExitCode", encode a.toolExitCode)])
    | other => other

instance : Decode LintAnalysis where
  decode? j := do
    return { findings := (← decode? j), tool := j.fieldD "tool" "", toolExitCode := j.fieldD "toolExitCode" none }

/-- The compilation errors of a project, also as findings by file. -/
structure CompilationAnalysis where
  errors : List CompilationError
  hotspot : LintHotspot
  buildExitCode : Option Int
  deriving Inhabited

instance : Encode CompilationAnalysis where
  encode a :=
    .obj [("errors", encode a.errors), ("hotspot", encode a.hotspot), ("buildExitCode", encode a.buildExitCode)]

instance : Decode CompilationAnalysis where
  decode? j := do
    return { errors := j.fieldD "errors" [], hotspot := j.fieldD "hotspot" default,
             buildExitCode := j.fieldD "buildExitCode" none }

namespace Lint

/-- The lints that are asked for. -/
def flags : List String := ["-W", "clippy::all"]

variable {η : Type}

/-- Runs the linter. -/
def analyze (tools : Tools η) (s : Snapshot) : Action η LintAnalysis := do
  if s.toolchain ≠ .rust then
    Action.log .warn "lint hotspot analysis needs a cargo project; reporting no violations" [("toolchain", encode s.toolchain)]
    return ⟨LintHotspot.empty, "none", none⟩
  let result ← tools { command := "cargo", args := ["clippy", "--all-targets", "--message-format=json", "--"] ++ flags,
                       cwd := some s.root }
  let found := Clippy.violations result.stdout s.root (← Project.workspaceOnDisk s.root)
  if result.exitCode ≠ 0 then
    Action.log .warn "clippy reported a failure"
      [("tool", .str "cargo clippy"), ("exitCode", encode result.exitCode), ("violations", encode found.length)]
  return ⟨.of found (linesOfCode s) LintHotspot.defaultLines, "cargo clippy", some result.exitCode⟩

/-- Runs the compiler. An error counts against each line of code of its file. -/
def compile (tools : Tools η) (s : Snapshot) : Action η CompilationAnalysis := do
  if s.toolchain ≠ .rust then return ⟨[], LintHotspot.empty, none⟩
  let result ← tools { command := "cargo", args := ["build", "--message-format=short"], cwd := some s.root }
  let workspace ← Project.workspaceOnDisk s.root
  let errors := (Diagnostics.errors (result.stderr ++ "\n" ++ result.stdout)).map fun e =>
    { e with file := Clippy.pathIn s.root workspace e.file }
  if result.exitCode ≠ 0 ∧ errors.isEmpty then
    Action.log .warn "build failed without parseable diagnostics"
      [("tool", .str "cargo build"), ("exitCode", encode result.exitCode)]
  return ⟨errors, .of (errors.map (·.toViolation)) (linesOfCode s) 1, some result.exitCode⟩

end Lint

/-- The history of a project over some days; nothing when there is no log to read. -/
def analyzeChurn {η : Type} (tools : Tools η) (root : String) (days : Number) (now : Instant) : Action η ChurnAnalysis := do
  let result ← tools { command := "git", args := ["log", s!"--since={days.text} days ago", "--relative", "--numstat",
                         s!"--format={Churn.logFormat}"], cwd := some root, env := [("GIT_TERMINAL_PROMPT", "0")] }
  if result.exitCode ≠ 0 then
    Action.log .warn "churn analysis skipped" [("tool", .str "git"), ("exitCode", encode result.exitCode),
      ("stderr", .str (String.ofList (trim result.stderr.toList)))]
    return Churn.empty days
  return Churn.ofLog result.stdout.toList days now

end QualityGate
