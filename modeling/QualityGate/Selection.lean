import QualityGate.Glob
import QualityGate.Issue
import QualityGate.Profile
import QualityGate.Ranking
import QualityGate.Record.Inherited
import QualityGate.Source.Outline
import QualityGate.Violation

/-!
# Choosing the next file

The next file to work on comes from the first of five tiers that has an eligible candidate: lint findings, compilation errors,
missing coverage, complexity, debt. Within a tier the candidates are ranked, and the first one is chosen.
-/

namespace QualityGate

namespace Severity

/-- What a violation of this gravity scores. -/
def base : Severity → Nat
  | error => 100
  | warning => 50
  | note => 10
  | info => 5

/-- The gravity that a tool's word stands for. -/
def ofWord (word : String) : Severity :=
  match String.ofList (lowered (trim word.toList)) with
  | "error" => error
  | "warning" => warning
  | "note" => note
  | "warn" => warning
  | "help" => note
  | _ => info

end Severity

/-- Lints about risky code count three times, those about complexity twice. -/
def lintMultiplier (lint : String) : Nat :=
  if ["unsafe", "panic", "unwrap", "expect"].any (Text.has lint) then 3
  else if ["complexity", "cognitive"].any (Text.has lint) then 2
  else 1

/-- Extra weight of a lint that lines up with a category that an issue talks about. -/
def issueMultiplier (lint : String) (keywords : List IssueKeyword) : Nat :=
  let small := Text.lower lint
  let asked (category : String) : Bool := keywords.any fun k => k.category = category
  if keywords.isEmpty then 1
  else if Text.has small "security" && asked "Security" then 4
  else if Text.has small "complexity" && asked "Complexity" then 3
  else if Text.has small "performance" && asked "Performance" then 3
  else if (Text.has small "bug" || Text.has small "correct") && asked "Correctness" then 3
  else 1

/-- The score of a violation. -/
def violationScore (lint : String) (severity : Severity) (keywords : List IssueKeyword) : Nat :=
  severity.base * lintMultiplier lint * issueMultiplier lint keywords

/-- The score of a file's violations. -/
def severityScore (violations : List Violation) (keywords : List IssueKeyword) : Nat :=
  total (violations.map fun v => violationScore v.lintName v.severity keywords)

/-- An error that a compiler reports. -/
structure CompilationError where
  file : String
  line : Nat
  column : Nat
  code : Option String
  message : String
  deriving DecidableEq, Repr, Inhabited

instance : Encode CompilationError where
  encode e :=
    .obj [("file", encode e.file), ("line", encode e.line), ("column", encode e.column), ("code", encode e.code),
      ("message", encode e.message)]

instance : Decode CompilationError where
  decode? j := do
    return { file := j.fieldD "file" "", line := j.fieldD "line" 0, column := j.fieldD "column" 0, code := j.fieldD "code" none,
             message := j.fieldD "message" "" }

/-- A source file with the count of its lines of code. -/
structure SourceFile where
  path : String
  sloc : Number
  deriving DecidableEq, Inhabited

instance : Encode SourceFile where
  encode f := .obj [("path", encode f.path), ("sloc", encode f.sloc)]

instance : Decode SourceFile where
  decode? j := do return { path := j.fieldD "path" "", sloc := j.fieldD "sloc" 0 }

/-- What the next file is chosen from. `targets` restricts every tier to some paths; `skipped` holds the paths that this run has
dealt with without completing them. -/
structure SelectionInput where
  profile : Profile
  metrics : Metrics
  filters : Filters
  filesCompleted : List String
  targets : Option (List String)
  skipped : List String
  violations : List Violation
  compilationErrors : List CompilationError
  coverageByFile : Record Number
  sourceFiles : List SourceFile
  complexity : List FileComplexity
  satdByFile : Record Number
  issueKeywords : List IssueKeyword
  coverageDriven : Bool
  deriving Inhabited

instance : Decode SelectionInput where
  decode? j := do
    return { profile := j.fieldD "profile" Profile.extreme, metrics := j.fieldD "metrics" Metrics.empty,
             filters := j.fieldD "filters" default, filesCompleted := j.fieldD "filesCompleted" [],
             targets := j.fieldD "targetSet" none, skipped := j.fieldD "skipped" [],
             violations := j.fieldD "violations" [], compilationErrors := j.fieldD "compilationErrors" [],
             coverageByFile := ((j.get? "coverageByFile").bind Json.decodeRecord?).getD [],
             sourceFiles := j.fieldD "sourceFiles" [], complexity := j.fieldD "complexity" [],
             satdByFile := ((j.get? "satdByFile").bind Json.decodeRecord?).getD [],
             issueKeywords := j.fieldD "issueKeywords" [], coverageDriven := j.fieldD "coverageDriven" false }

/-- The tiers, in order of priority. -/
inductive Tier where
  | lint
  | build
  | coverage
  | complexity
  | satd
  deriving DecidableEq, Repr, Inhabited

namespace Tier

def name : Tier → String
  | lint => "lint"
  | build => "build"
  | coverage => "coverage"
  | complexity => "complexity"
  | satd => "satd"

instance : Encode Tier := ⟨fun t => .str t.name⟩
instance : Decode Tier :=
  ⟨fun j => j.str?.bind fun s => [lint, build, coverage, complexity, satd].find? fun t => t.name = s⟩

end Tier

/-- The file chosen next, with the tier it comes from and the reason. -/
structure Target where
  file : String
  tier : Tier
  reason : String
  deriving DecidableEq, Repr, Inhabited

/-- What a choice comes to: a file, or the insight that no tier has a candidate left. -/
inductive Selection where
  | selected (target : Target)
  | exhausted (reason : String)
  deriving DecidableEq, Repr

instance : Encode Target where
  encode t :=
    .obj [("kind", .str "selected"), ("file", encode t.file), ("tier", encode t.tier), ("reason", encode t.reason)]

instance : Encode Selection where
  encode
    | .selected t => encode t
    | .exhausted reason => .obj [("kind", .str "exhausted"), ("reason", encode reason)]

namespace SelectionInput

/-- Whether a path is in a list of paths, spelling apart. -/
def listed (paths : List String) (path : String) : Bool := (paths.map normalizePath).contains path

/-- Whether a file may be chosen: it is not done, it is among the targets or passes the filters, and it may be refactored unless
that does not matter. -/
def eligible (input : SelectionInput) (file : String) (anyFile : Bool) : Bool :=
  let path := normalizePath file
  !listed input.filesCompleted path && !listed input.skipped path &&
    input.targets.all (listed · path) &&
    (anyFile || !isNonRefactorable path) &&
    (input.targets.isSome || input.filters.passes path)

end SelectionInput

namespace Select

/-- The least of some items under an order, the first among equals. -/
def best? {α : Type} (order : α → α → Ordering) (items : List α) : Option α := (sortBy order items).head?

/-- A file with lint findings, and what it is ranked by. -/
structure LintCandidate where
  file : String
  count : Nat
  severity : Nat
  coverage : Number

/-- Many findings first, then grave ones, then little coverage, then by name; a coverage that is no number compares with none. -/
def LintCandidate.order (a b : LintCandidate) : Ordering :=
  (compare b.count a.count).then <| (compare b.severity a.severity).then <|
    if a.coverage.same b.coverage then Collation.order a.file b.file else Number.order a.coverage b.coverage

/-- The eligible files with lint findings. -/
def lintCandidates (input : SelectionInput) : List LintCandidate :=
  ((groupBy (fun v => normalizePath v.file) input.violations).filter fun (file, _) => input.eligible file true).map
    fun (file, vs) => ⟨file, vs.length, severityScore vs input.issueKeywords, input.coverageByFile.numberOr file 100⟩

/-- The eligible files with lint findings, ranked. -/
def rankedByLint (input : SelectionInput) : List LintCandidate :=
  Ranking.rank (fun c => !c.coverage.isNan) LintCandidate.order (lintCandidates input)

def lint? (input : SelectionInput) : Option Target :=
  (rankedByLint input).head?.map fun c =>
    ⟨c.file, .lint, s!"{c.count} lint violations (severity score {c.severity})"⟩

/-- The eligible files with compilation errors, and how many each has. -/
def buildCandidates (input : SelectionInput) : List (String × Nat) :=
  ((groupBy (fun e => normalizePath e.file) input.compilationErrors).filter fun (file, _) => input.eligible file true).map
    fun (file, es) => (file, es.length)

/-- Large counts first, then by name. -/
def countOrder (a b : String × Nat) : Ordering := (compare b.2 a.2).then (Collation.order a.1 b.1)

def build? (input : SelectionInput) : Option Target :=
  (best? countOrder (buildCandidates input)).map fun (file, count) => ⟨file, .build, s!"{count} compilation errors"⟩

/-- A file with too little coverage. -/
structure CoverageCandidate where
  path : String
  sloc : Number
  coverage : Number

/-- The eligible source files whose coverage is below the minimum. -/
def coverageCandidates (input : SelectionInput) : List CoverageCandidate :=
  ((input.sourceFiles.map fun f => { f with path := normalizePath f.path }).filter fun f => input.eligible f.path false).map
    (fun f => ⟨f.path, f.sloc, input.coverageByFile.numberOr f.path 0⟩) |>.filter
      fun c => c.coverage.lt input.profile.coverageMin

/-- The fewest lines of code of a file that work on coverage alone goes to. -/
def minCoverageLines : Number := 20

/-- Little coverage first, then many lines, then by name. -/
def CoverageCandidate.order (a b : CoverageCandidate) : Ordering :=
  (Number.order a.coverage b.coverage).then <| (Number.order b.sloc a.sloc).then (Collation.order a.path b.path)

def coverage? (input : SelectionInput) : Option Target :=
  let gaps := coverageCandidates input
  if input.coverageDriven then
    (best? CoverageCandidate.order (gaps.filter fun c => minCoverageLines.le c.sloc)).map fun c =>
      ⟨c.path, .coverage, s!"largest file with lowest coverage ({c.coverage.fixed 1}%, {c.sloc} lines)"⟩
  else
    (best? (fun a b => Collation.order a.path b.path) gaps).map fun c =>
      ⟨c.path, .coverage, s!"coverage {c.coverage.fixed 1}% below {input.profile.coverageMin}%"⟩

/-- The eligible files with a function over the limit, and their largest complexity. -/
def complexityCandidates (input : SelectionInput) : List (String × Nat) :=
  (input.complexity.filter fun f =>
    input.eligible (normalizePath f.path) false &&
      f.functions.any fun fn => input.profile.complexityMax.lt (Number.ofNat fn.cyclomatic)).map
    fun f => (normalizePath f.path, f.maxCyclomatic)

def complexity? (input : SelectionInput) : Option Target :=
  if input.profile.complexityMax.lt input.metrics.maxComplexity then
    (best? countOrder (complexityCandidates input)).map fun (file, value) =>
      ⟨file, .complexity, s!"function complexity {value} exceeds {input.profile.complexityMax}"⟩
  else none

/-- The eligible files with debt, and how many items each has. -/
def satdCandidates (input : SelectionInput) : List (String × Number) :=
  (input.satdByFile.map fun (file, count) => (normalizePath file, count)).filter fun (file, count) =>
    Number.lt 0 count && input.eligible file false

def satd? (input : SelectionInput) : Option Target :=
  if Number.lt 0 input.metrics.satdCount then
    (best? (fun a b => (Number.order b.2 a.2).then (Collation.order a.1 b.1)) (satdCandidates input)).map
      fun (file, count) => ⟨file, .satd, s!"{count} SATD items"⟩
  else none

/-- The file for the limits on complexity and debt. -/
def quality? (input : SelectionInput) : Option Target := complexity? input <|> satd? input

end Select

/-- The next file: from lint, build, coverage, complexity or debt, the first of them with a candidate. -/
def selectTarget (input : SelectionInput) : Selection :=
  match Select.lint? input <|> Select.build? input <|> Select.coverage? input <|> Select.quality? input with
  | some target => .selected target
  | none => .exhausted "No eligible file remains in any tier"

end QualityGate
