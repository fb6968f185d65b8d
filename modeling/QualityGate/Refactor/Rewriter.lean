import QualityGate.Analysis.Lint
import QualityGate.Plan
import QualityGate.Source.Template

/-!
# Rewriting without an agent

Some findings need no agent: templates that fit, comments that admit debt, tests that are missing altogether, and what the linter
can fix itself. They are dealt with in this order, and the outcome tells what was done.
-/

namespace QualityGate

/-- A file to rewrite. -/
structure RewriteInput where
  root : String
  file : String
  content : String
  toolchain : Toolchain
  plan : RewritePlan
  violations : List Violation
  deriving Inhabited

namespace RewriteInput

/-- The path of the file on disk. -/
def path (input : RewriteInput) : String := Path.join [input.root, input.file]

end RewriteInput

/-- What a rewrite has made of a file. -/
structure RewriteOutcome where
  content : String
  changed : Bool
  applied : List String
  deriving DecidableEq, Repr, Inhabited

instance : Encode RewriteOutcome where
  encode o := .obj [("content", encode o.content), ("changed", encode o.changed), ("applied", encode o.applied)]

instance : Decode RewriteOutcome where
  decode? j := do
    return { content := j.fieldD "content" "", changed := j.fieldD "changed" false, applied := j.fieldD "applied" [] }

/-- Who rewrites files. -/
abbrev Rewriter (η : Type) := RewriteInput → Action η RewriteOutcome

namespace Rewrite

/-- What is said when the linter has fixed what it can. -/
def lintFixes : String := "cargo clippy --fix"

/-- The text of a file after the fixes that need no tool, and what was done. -/
def edit (templates : List RewriteTemplate) (input : RewriteInput) : List Char × List String :=
  let (content, used) := applyTemplates input.file templates input.content.toList
  let applied := used.map fun t => s!"template {t.signature}"
  let cleaned := if input.plan.violations.any fun v => v.lintName = "satd_item" then removeSatd input.toolchain content else content
  let applied := if cleaned = content then applied else applied ++ ["satd removal"]
  let (stubbed, added) :=
    if input.plan.violations.any fun v => v.fixStrategy = .addTest then appendTestStubs input.toolchain cleaned else (cleaned, [])
  if added.isEmpty then (cleaned, applied)
  else
    let names := Text.join ", " added
    (stubbed, applied ++ [s!"test stubs for {names}"])

variable {η : Type}

/-- Lets the linter fix what it can: the text of the file afterwards, none when the linter failed. -/
def fixLints (tools : Tools η) (input : RewriteInput) : Action η (Option String) := do
  let result ← tools { command := "cargo", args := ["clippy", "--fix", "--allow-dirty", "--"] ++ Lint.flags,
                       cwd := some (← Project.workspaceOnDisk input.root) }
  if result.exitCode = 0 then return some (← Action.readText input.path)
  Action.log .warn "automatic lint fixes failed" [("tool", .str lintFixes), ("exitCode", encode result.exitCode)]
  return none

/-- Rewrites a file as far as that needs no agent. -/
def withTemplates (tools : Tools η) (templates : List RewriteTemplate) : Rewriter η := fun input => do
  let (edited, applied) := edit templates input
  let content := String.ofList edited
  if content ≠ input.content then Action.writeText input.path content
  if input.toolchain = .rust ∧ input.violations.any (·.machineApplicable) then
    match ← fixLints tools input with
    | some fixed => return ⟨fixed, fixed ≠ input.content, applied ++ [lintFixes]⟩
    | none => return ⟨content, content ≠ input.content, applied⟩
  else return ⟨content, content ≠ input.content, applied⟩

end Rewrite

/-- What is still wrong with a rewritten file: lint findings that the linter cannot have fixed, and what the new text shows. -/
def remainingViolations (file : String) (rewrite : RewriteOutcome) (lint : List Violation) (t : Toolchain) (p : Profile) :
    List Violation :=
  let fixed := rewrite.applied.contains Rewrite.lintFixes
  let content := rewrite.content.toList
  lint.filter (fun v => !(fixed && v.machineApplicable)) ++ (detectSatd t file content).map DebtItem.toViolation ++
    Plan.highComplexity file (outline t content) p

end QualityGate
