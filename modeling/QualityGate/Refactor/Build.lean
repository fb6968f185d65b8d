import QualityGate.Analysis.Project

/-!
# Build checks

A rewritten file has to keep the project building.
-/

namespace QualityGate

/-- How a build check ended. -/
structure BuildCheck where
  ok : Bool
  skipped : Bool
  output : String
  deriving DecidableEq, Repr, Inhabited

instance : Encode BuildCheck where
  encode c := .obj [("ok", encode c.ok), ("skipped", encode c.skipped), ("output", encode c.output)]

instance : Decode BuildCheck where
  decode? j := do return { ok := j.fieldD "ok" true, skipped := j.fieldD "skipped" false, output := j.fieldD "output" "" }

/-- Checks that a project builds, from the root of its workspace; only cargo projects have something to check. -/
def checkBuild {η : Type} (tools : Tools η) (root : String) (t : Toolchain) : Action η BuildCheck := do
  if t ≠ .rust then return ⟨true, true, ""⟩
  let result ← tools { command := "cargo", args := ["check"], cwd := some (← Project.workspaceOnDisk root) }
  return ⟨result.exitCode = 0, false, result.stdout ++ result.stderr⟩

end QualityGate
