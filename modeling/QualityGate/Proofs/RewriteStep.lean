import QualityGate.Proofs.Actions
import QualityGate.Proofs.Backups

/-!
# The rewrite of a file is all or nothing

Whatever the rewriter, the agent and the build check do, and whenever the run is canceled: behind the rewriting of a file the file is as
the good build had it, or as it was before. The backup is the key. As long as it holds the old text the file can be put back, and both
ways out of the step use it up.
-/

namespace QualityGate

open Refactor RunAction

variable {η : Type}

/-- Whether the backup of a file that was there holds its old text. -/
def BackedUp (path : String) (standing : Option String) (w : World η) : Prop :=
  ∀ text, standing = some text → w.disk.at? (backupOf path) = some (.file text)

section Steps

variable {who : Collaborators η} {cfg : RunConfig} {path : String} {standing : Option String}

/-- A request is about the file of its target. -/
theorem file_requestFor (r : Run) (file : String) (rewrite : RewriteOutcome) (remaining : List Violation) (coverage : Number) :
    (requestFor cfg r file rewrite remaining coverage).file = file := rfl

/-- A request names the tests of the file of its target. -/
theorem tests_requestFor (r : Run) (file : String) (rewrite : RewriteOutcome) (remaining : List Violation) (coverage : Number) :
    (requestFor cfg r file rewrite remaining coverage).tests.path = RewriteRequest.testFileFor file := by
  dsimp only [requestFor, RewriteRequest.build]

section Target

variable {sample : QualitySample} {target : Target} {plan : RewritePlan}

/-- A file that is there is copied aside, and one that is not needs no copy. -/
theorem backUp_run {w : World η} (hat : w.disk.at? path = standing.map .file) :
    ((backUp path standing.isSome).run w).1 = .ok () ∧ BackedUp path standing ((backUp path standing.isSome).run w).2 ∧
      ((backUp path standing.isSome).run w).2.disk.at? path = standing.map .file := by
  cases standing with
  | none => exact ⟨rfl, nofun, hat⟩
  | some text =>
    have hcopy : (backUp path true).run w = (.ok (), { w with disk := w.disk.put (backupOf path) (.file text) }) := by
      unfold backUp Action.copy
      rw [if_pos rfl, Action.run_bind, Action.run_world]
      dsimp only
      rw [Disk.text?_eq_some_iff.mpr hat]
      rfl
    rw [Option.isSome_some, hcopy]
    refine ⟨rfl, ?_, ?_⟩
    · intro other heq
      obtain rfl := Option.some.inj heq
      exact Disk.at?_put_self (key_backupOf_ne_root path) w.disk _
    · exact (Disk.at?_put_of_ne (key_backupOf_ne path).symm w.disk _).trans hat

/-- A build check that passes ends the step with the file as it is and without its backup. -/
theorem concludeBuild_passed {build : BuildCheck} (hok : build.ok = true) (file : String) (existed awaiting : Bool) (r : Run)
    (w : World η) : concludeBuild cfg file existed awaiting build r w =
      ((.ok (.built awaiting), r), { w with disk := w.disk.drop (backupOf (pathIn cfg file)) }) := by
  unfold concludeBuild
  rw [if_pos hok]
  rfl

/-- With the backup made, the step is an attempt, and behind a failed one the file is put back. -/
theorem rewriteTarget_eq {r : Run} {w w₀ : World η}
    (hbackUp : (backUp (pathIn cfg target.file) standing.isSome).run w = (.ok (), w₀)) :
    rewriteTarget who cfg sample target standing plan r w = match attempt who cfg sample target standing plan r w₀ with
      | ((.ok attempted, r'), w') => ((.ok attempted, r'), w')
      | ((.error failure, r'), w') => (do act (restore (pathIn cfg target.file) standing.isSome); throw failure) r' w' := by
  unfold rewriteTarget
  rw [bind_apply, act_apply hbackUp, goOn_ok, bind_apply]
  unfold observe
  rcases attempt who cfg sample target standing plan r w₀ with ⟨⟨result, r'⟩, w'⟩
  cases result <;> rfl

/-- An attempt is a rewriting with its build; when that fails, the file is put back. -/
theorem attempt_eq (r : Run) (w : World η) : attempt who cfg sample target standing plan r w =
    match rewriteAndCheck who cfg sample target standing plan r w with
    | ((.ok (.stopped status), r'), w') => ((.ok (.stopped status), r'), w')
    | ((.ok (.checked awaiting build), r'), w') => concludeBuild cfg target.file standing.isSome awaiting build r' w'
    | ((.error failure, r'), w') => ((.error failure, r'), w') := by
  unfold attempt
  rw [bind_apply]
  rcases rewriteAndCheck who cfg sample target standing plan r w with ⟨⟨result, r'⟩, w'⟩
  cases result with
  | ok rewritten => cases rewritten <;> rfl
  | error => rfl

/-- The work on a file that is no rehearsal is its rewriting and what comes behind. -/
theorem processTarget_eq {r : Run} {w w' : World η} (live : cfg.dryRun = false)
    (reads : (Action.readText? (pathIn cfg target.file)).run w = (.ok standing, w')) :
    processTarget who cfg sample target r w =
      (rewriteTarget who cfg sample target standing (planFor cfg r sample target standing) >>=
        concludeAttempt who cfg target.file) r w' := by
  unfold processTarget
  rw [bind_apply, act_apply reads, goOn_ok, bind_apply]
  show (if cfg.dryRun = true then _ else _ : RunAction η (Option RefactorStatus)) r w' = _
  rw [if_neg (by rw [live]; decide)]

end Target

end Steps

namespace OneFinding

def sample : QualitySample :=
  { (default : QualitySample) with
    metrics := { Metrics.empty with totalViolations := 1 }, violations := [{ (default : Violation) with file := "a.rs" }] }

def target : Target := ⟨"a.rs", .lint, "1 lint violations (severity score 100)"⟩

def config : RunConfig := { (default : RunConfig) with projectRoot := "/p", profile := Profile.extreme }

/-- Collaborators with a rewriter that writes a new text and a build check that fails. -/
def who : Collaborators Unit where
  gauge := { context := pure default, measure := pure sample, measureFile := fun _ => pure default }
  load := pure none
  save _ := pure ()
  rewriter _ := do
    Action.changeDisk (·.put "/p/a.rs" (.file "new"))
    return ⟨"new", true, []⟩
  verifyBuild := pure ⟨false, false, ""⟩
  agent := none
  showProgress _ := pure ()
  showRequest _ := pure ()

def world : World Unit := { disk := [("/p/a.rs", .file "old")], clock := 0, inner := () }

def begun : Run := { state := { RefactorState.initial "" 0 with iteration := 1 }, phases := [], context := some default }

/-- The run and the world in which the file is chosen. -/
def surveyed : (Except Failure Survey × Run) × World Unit := survey who config begun world

/-- The run and the world in which the rewriting begins. -/
def turned : (Except Failure Bool × Run) × World Unit := turnTo who config sample target surveyed.1.2 surveyed.2

end OneFinding

end QualityGate
