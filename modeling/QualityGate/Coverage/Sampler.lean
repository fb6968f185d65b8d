import QualityGate.Analysis.Findings
import QualityGate.Coverage.Report
import QualityGate.Json.Parser
import QualityGate.Schema
import QualityGate.World

/-!
# Measuring coverage

Three tool chains are tried in a fixed order until one gives a usable report: source-based profiles, a profile aggregator and an
instrumenting runner. All tools share one time budget; when it has run out no further tool is started and coverage counts as zero.
-/

namespace QualityGate

/-- A tool chain that coverage comes from. -/
inductive CoverageSource where
  | llvm
  | grcov
  | tarpaulin
  | none
  deriving DecidableEq, Repr, Inhabited

namespace CoverageSource

def name : CoverageSource → String
  | llvm => "llvm"
  | grcov => "grcov"
  | tarpaulin => "tarpaulin"
  | none => "none"

instance : Encode CoverageSource := ⟨fun s => .str s.name⟩
instance : Decode CoverageSource :=
  ⟨fun j => j.str?.bind fun s => [llvm, grcov, tarpaulin, none].find? fun c => c.name = s⟩

end CoverageSource

/-- A tool that was started, and how it ended. -/
structure CoverageAttempt where
  tool : String
  exitCode : Int
  timedOut : Bool
  deriving DecidableEq, Repr, Inhabited

instance : Encode CoverageAttempt where
  encode a := .obj [("tool", encode a.tool), ("exitCode", encode a.exitCode), ("timedOut", encode a.timedOut)]

instance : Decode CoverageAttempt where
  decode? j := do
    return { tool := j.fieldD "tool" "", exitCode := j.fieldD "exitCode" 0, timedOut := j.fieldD "timedOut" false }

/-- The coverage of a project, or of one of its files. -/
structure CoverageMeasurement where
  source : CoverageSource
  file : Option String
  percent : Figure
  report : CoverageReport
  attempts : List CoverageAttempt
  deriving Inhabited

instance : Encode CoverageMeasurement where
  encode m :=
    .present [("source", some (encode m.source)), ("file", some (encode m.file)), ("percent", m.percent.json?),
      ("report", some (encode m.report)), ("attempts", some (encode m.attempts))]

instance : Decode CoverageMeasurement where
  decode? j := do
    return { source := j.fieldD "source" .none, file := j.fieldD "file" none, percent := j.fieldD "percent" (.number 0),
             report := j.fieldD "report" CoverageReport.empty, attempts := j.fieldD "attempts" [] }

namespace TestExecutables

/-- The test executable that a message of the build tells of. -/
def check : Check (Option String) := Check.object fun a =>
  (fun _ path test => if test then path.filter (· ≠ "") else none)
    <$> Check.field a "reason" (Check.exactly "compiler-artifact")
    <*> Check.field a "executable" (Check.nullish Check.text)
    <*> Check.field a "profile" (Check.object fun p => Check.field p "test" Check.bool)

def ofLine? (line : List Char) : Option String :=
  if line.head? = some '\x7b' then
    ((Json.ofText? (String.ofList line)).bind fun j => (check (some j)).accepted?).join
  else none

/-- The test executables that a build made. -/
def ofOutput (output : String) : List String := (splitLines output.toList).filterMap ofLine?

end TestExecutables

namespace Coverage

variable {η : Type}

/-- Tools are started until the time is up; every started one is written down. -/
abbrev Sampling (η α : Type) := ExceptT Unit (StateT (List CoverageAttempt) (Action η)) α

/-- What a measurement is made with. -/
structure Setup (η : Type) where
  tools : Tools η
  clock : Action η Instant
  root : String
  coverageDir : String
  deadline : Instant
  file : Option String

/-- Does something that is no tool. -/
def act {α : Type} (a : Action η α) : Sampling η α := ExceptT.lift (StateT.lift a)

/-- Starts a tool with the time that is left, if any. -/
def Setup.start (s : Setup η) (tool command : String) (args : List String) (env : List (String × String) := []) :
    Sampling η CommandResult := do
  let now ← act s.clock
  if s.deadline ≤ now then throwThe Unit ()
  let result ← act (s.tools { command, args, cwd := some s.root, env, timeoutMs := some (s.deadline - now) })
  modify (· ++ [⟨tool, result.exitCode, result.timedOut⟩])
  return result

/-- Makes an empty directory in place of what stands at the path. -/
def renew (directory : String) : Action η Unit := do
  Action.refuseBlocked "lstat" directory
  Action.changeDisk fun d => (d.dropTree directory).ensureDirectory directory

/-- The profiles in a directory. -/
def profilesIn (directory : String) (d : Disk) : List String :=
  ((d.children directory).map (·.1)).filterMap fun name =>
    if Text.ends name ".profraw" then some (Path.join [directory, name]) else none

/-- The profiles that tests have left in a directory. -/
def profiles (directory : String) : Action η (List String) := do
  let disk := (← Action.world).disk
  if !disk.isDirectory directory then
    Action.fail (.file "ENOENT" s!"ENOENT: no such file or directory, scandir '{directory}'")
  return profilesIn directory disk

/-- Source-based coverage: an instrumented build, its tests, the merged profiles and their report. -/
def Setup.llvm (s : Setup η) : Sampling η (Option CoverageReport) := do
  act (renew s.coverageDir)
  let env := [("RUSTFLAGS", "-C instrument-coverage"), ("LLVM_PROFILE_FILE", Path.join [s.coverageDir, "%p-%m.profraw"])]
  let build ← s.start "cargo test --no-run" "cargo" ["test", "--no-run", "--message-format=json"] env
  match build.exitCode, TestExecutables.ofOutput build.stdout with
  | 0, binary :: others =>
    let tests ← s.start "cargo test" "cargo" ["test", "--quiet", "--", "--test-threads=4"] env
    if tests.exitCode ≠ 0 then
      act (Action.log .warn "some tests failed; coverage may be incomplete" [("exitCode", encode tests.exitCode)])
    let found ← act (profiles s.coverageDir)
    if found.isEmpty then return none
    let merged := Path.join [s.coverageDir, "merged.profdata"]
    let merge ← s.start "llvm-profdata" "llvm-profdata" (["merge", "-sparse"] ++ found ++ ["-o", merged])
    if merge.exitCode ≠ 0 then return none
    let report ← s.start "llvm-cov" "llvm-cov"
      (["report", binary] ++ others.flatMap (["-object", ·]) ++
        [s!"--instr-profile={merged}", "--show-region-summary=false"] ++ s.file.toList)
    return if report.exitCode = 0 then some (.ofRegions report.stdout) else none
  | _, _ => return none

/-- Coverage from profiles that are already there. -/
def Setup.grcov (s : Setup η) : Sampling η (Option CoverageReport) := do
  let result ← s.start "grcov" "grcov" [s.coverageDir, "--binary-path", "./target/debug/", "--source-dir", ".",
    "--output-type", "files", "--ignore", "tests/*", "--ignore", "target/*"]
  return if result.exitCode = 0 then some (.ofFileList result.stdout) else none

/-- Coverage from an instrumenting test runner. -/
def Setup.tarpaulin (s : Setup η) : Sampling η (Option CoverageReport) := do
  let only := match s.file with
    | some file => ["--include-files", file]
    | none => []
  let result ← s.start "cargo tarpaulin" "cargo"
    (["tarpaulin", "--print-summary", "--skip-clean"] ++ only ++ ["--timeout", "30"])
  return if result.exitCode = 0 then some (.ofSummary (result.stdout ++ "\n" ++ result.stderr)) else none

/-- What a report says about the file that was asked for, or about the project. -/
def percentOf? (file : Option String) (r : CoverageReport) : Option Figure :=
  match file.filter (· ≠ "") with
  | some file => r.ofFileOrTotal? file
  | none => if r.byFile.isEmpty ∧ r.totalPercent.isNone then none else some (.number r.project)

/-- Coverage that could not be measured. -/
def unmeasured (file : Option String) (attempts : List CoverageAttempt) : CoverageMeasurement :=
  ⟨.none, file, .number 0, CoverageReport.empty, attempts⟩

/-- Tries tool chains in turn until one gives a usable report or the time is up. -/
def tryAll (file : Option String) : List (CoverageSource × Sampling η (Option CoverageReport)) →
    List CoverageAttempt → Action η CoverageMeasurement
  | [], attempts => giveUp attempts
  | (source, sample) :: rest, attempts => do
    let (outcome, attempts) ← (sample.run).run attempts
    match outcome with
    | .error () =>
      Action.log .warn "coverage time budget exhausted; reporting 0%" [("attempts", encode attempts)]
      giveUp attempts
    | .ok report =>
      match report.bind fun r => (percentOf? file r).map (r, ·) with
      | some (r, percent) => return ⟨source, file, percent, r, attempts⟩
      | none =>
        Action.log .warn "coverage tool produced no usable report"
          [("tool", encode source), ("attempts", encode attempts.length)]
        tryAll file rest attempts
where
  giveUp (attempts : List CoverageAttempt) : Action η CoverageMeasurement := do
    Action.log .warn "coverage unavailable; reporting 0%" [("file", encode file), ("attempts", encode attempts)]
    return unmeasured file attempts

/-- The path in the project of a file that coverage is asked for. -/
def fileIn (root : String) (file : Option String) : Option String :=
  (file.filter (· ≠ "")).map fun f => normalizePath (if Path.isAbsolute f then Path.relative root f else f)

/-- The coverage of a project, or of one file of it. -/
def measure (tools : Tools η) (timeoutMs : Int) (s : Snapshot) (coverageDir : String) (file : Option String)
    (clock : Action η Instant := Action.now) : Action η CoverageMeasurement := do
  let file := fileIn s.root file
  if s.toolchain ≠ .rust then
    Action.log .warn "coverage sampling needs a cargo project; reporting 0%" [("toolchain", encode s.toolchain)]
    return unmeasured file []
  let setup : Setup η := ⟨tools, clock, s.root, coverageDir, (← clock) + timeoutMs, file.filter (· ≠ "")⟩
  tryAll file [(.llvm, setup.llvm), (.grcov, setup.grcov), (.tarpaulin, setup.tarpaulin)] []

end Coverage

end QualityGate
