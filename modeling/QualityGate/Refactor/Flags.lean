import QualityGate.CommandLine.Options
import QualityGate.Glob
import QualityGate.Profile
import QualityGate.Refactor.Mode
import QualityGate.Schema
import QualityGate.Toolchain

/-!
# Flags of a refactor run

The options of the refactor command, how their values are read, and the mode and the quality profile that follow from them. The first
value that cannot be used is reported.
-/

namespace QualityGate

/-- How a run's summary is written. -/
inductive SummaryFormat where
  | json
  | markdown
  deriving DecidableEq, Repr, Inhabited

namespace SummaryFormat

def name : SummaryFormat → String
  | json => "json"
  | markdown => "markdown"

def names : List String := [json.name, markdown.name]

def ofName? (text : String) : Option SummaryFormat := [json, markdown].find? fun f => f.name = text

instance : Encode SummaryFormat := ⟨fun f => .str f.name⟩
instance : Decode SummaryFormat := ⟨fun j => j.str?.bind ofName?⟩

end SummaryFormat

/-- What the user asks of a run. -/
structure RefactorFlags where
  projectPath : String
  singleFileMode : Bool
  file : Option String
  maxIterations : Number
  cacheDir : Option String
  dryRun : Bool
  ciMode : Bool
  include_ : List String
  exclude : List String
  ignoreFile : Option String
  testFile : Option String
  testName : Option String
  issueUrl : Option String
  bugReportPath : Option String
  agentCommand : Option String
  templates : Option String
  toolchain : Option Toolchain
  format : SummaryFormat
  coverageMin : Option Number
  complexityMax : Option Number
  satdAllowed : Option Number
  deriving Inhabited

instance : Encode RefactorFlags where
  encode f :=
    .present [("project-path", some (encode f.projectPath)), ("single-file-mode", some (encode f.singleFileMode)),
      ("file", f.file.map encode), ("max-iterations", some (encode f.maxIterations)), ("cache-dir", f.cacheDir.map encode),
      ("dry-run", some (encode f.dryRun)), ("ci-mode", some (encode f.ciMode)), ("include", some (encode f.include_)),
      ("exclude", some (encode f.exclude)), ("ignore-file", f.ignoreFile.map encode), ("test-file", f.testFile.map encode),
      ("test-name", f.testName.map encode), ("github-issue-url", f.issueUrl.map encode),
      ("bug-report-path", f.bugReportPath.map encode), ("agent-command", f.agentCommand.map encode),
      ("templates", f.templates.map encode), ("toolchain", f.toolchain.map encode), ("format", some (encode f.format)),
      ("coverage-min", f.coverageMin.map encode), ("complexity-max", f.complexityMax.map encode),
      ("satd-allowed", f.satdAllowed.map encode)]

namespace RefactorFlags

def defaultMaxIterations : Number := 10

/-- The options of the command. -/
def options : OptionTable :=
  [("project-path", .value), ("single-file-mode", .flag), ("file", .value), ("max-iterations", .value), ("cache-dir", .value),
    ("dry-run", .flag), ("ci-mode", .flag), ("include", .values), ("exclude", .values), ("ignore-file", .value),
    ("test-file", .value), ("test-name", .value), ("github-issue-url", .value), ("bug-report-path", .value),
    ("agent-command", .value), ("templates", .value), ("toolchain", .value), ("format", .value), ("coverage-min", .value),
    ("complexity-max", .value), ("satd-allowed", .value)]

def textCheck : Check String := Check.nonempty Check.text

def textsCheck : Check (List String) := Check.orElse (Check.list textCheck) []

def switchCheck : Check Bool := Check.orElse Check.bool false

def check : Check RefactorFlags := Check.object fun f =>
  RefactorFlags.mk
    <$> Check.field f "project-path" (Check.orElse textCheck ".")
    <*> Check.field f "single-file-mode" switchCheck
    <*> Check.field f "file" (Check.optional textCheck)
    <*> Check.field f "max-iterations" (Check.orElse (Check.positive (Check.whole Check.numeral)) defaultMaxIterations)
    <*> Check.field f "cache-dir" (Check.optional textCheck)
    <*> Check.field f "dry-run" switchCheck
    <*> Check.field f "ci-mode" switchCheck
    <*> Check.field f "include" textsCheck
    <*> Check.field f "exclude" textsCheck
    <*> Check.field f "ignore-file" (Check.optional textCheck)
    <*> Check.field f "test-file" (Check.optional textCheck)
    <*> Check.field f "test-name" (Check.optional textCheck)
    <*> Check.field f "github-issue-url" (Check.optional textCheck)
    <*> Check.field f "bug-report-path" (Check.optional textCheck)
    <*> Check.field f "agent-command" (Check.optional textCheck)
    <*> Check.field f "templates" (Check.optional textCheck)
    <*> Check.field f "toolchain" (Check.optional (Check.oneOf (Toolchain.all.map Toolchain.name) Toolchain.ofName?))
    <*> Check.field f "format" (Check.orElse (Check.oneOf SummaryFormat.names SummaryFormat.ofName?) .markdown)
    <*> Check.field f "coverage-min" (Check.optional (Check.atMost 100 (Check.atLeast 0 Check.numeral)))
    <*> Check.field f "complexity-max" (Check.optional (Check.positive (Check.whole Check.numeral)))
    <*> Check.field f "satd-allowed" (Check.optional (Check.atLeast 0 (Check.whole Check.numeral)))

/-- The flags in the values of options. -/
def ofValues (values : Json) : Except Failure RefactorFlags :=
  let checked := check (some values)
  match checked.accepted?, checked.faults with
  | some flags, _ => .ok flags
  | none, f :: _ => .error (.configuration s!"Invalid --{Text.ofPath f.path}: {f.message}")
  | none, [] => .error (.configuration "Invalid --flags: unparsable value")

/-- Whether a single file is to be worked on. -/
def wantsSingleFile (f : RefactorFlags) : Bool := f.singleFileMode || f.file.isSome

/-- The options that each ask for a mode. -/
def chosenModes (f : RefactorFlags) : List String :=
  (if f.wantsSingleFile then ["--single-file-mode"] else []) ++ (if f.testFile.isSome then ["--test-file"] else []) ++
    (if f.issueUrl.isSome then ["--github-issue-url"] else []) ++ (if f.bugReportPath.isSome then ["--bug-report-path"] else [])

/-- The one mode that the flags ask for. -/
def mode (f : RefactorFlags) : Except Failure RefactorMode :=
  if 1 < f.chosenModes.length then
    let chosen := Text.join ", " f.chosenModes
    .error (.configuration s!"Conflicting modes: {chosen}")
  else if f.testName.isSome && f.testFile.isNone then .error (.configuration "--test-name requires --test-file")
  else if f.wantsSingleFile then
    match f.file with
    | some file => .ok (.singleFile file)
    | none => .error (.configuration "--file is required with --single-file-mode")
  else
    match f.testFile, f.issueUrl, f.bugReportPath with
    | some file, _, _ => .ok (.testDriven file f.testName)
    | none, some url, _ => .ok (.issueDriven url)
    | none, none, some path => .ok (.bugReport path)
    | none, none, none => .ok .normal

/-- The strictest profile with the limits that are given. -/
def profile (f : RefactorFlags) : Profile :=
  { Profile.extreme with
    coverageMin := f.coverageMin.getD Profile.extreme.coverageMin
    complexityMax := f.complexityMax.getD Profile.extreme.complexityMax
    satdAllowed := f.satdAllowed.getD Profile.extreme.satdAllowed }

/-- The filters that the flags and the ignore file give. -/
def filters {η : Type} (f : RefactorFlags) (base : String) : Action η Filters := do
  match f.ignoreFile with
  | none => return ⟨f.include_, f.exclude⟩
  | some file =>
    match ← Action.readText? (Path.resolve base file) with
    | none => Action.fail (.configuration s!"Ignore file not found: {file}")
    | some text => return ⟨f.include_, f.exclude ++ parseIgnoreFile text⟩

end RefactorFlags

end QualityGate
