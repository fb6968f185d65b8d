import QualityGate.Source.Functions
import QualityGate.Text.Digest

/-!
# Outline and complexity of a source

The outline of a source lists its functions and imports and has a digest of both, by which two versions of the same structure are
recognised. The complexity of a file is that of its functions.
-/

namespace QualityGate

open QualityGate.Toolchain

/-- The functions and imports of a source, with a digest of where they stand. -/
structure Outline where
  functions : List FunctionInfo
  imports : List String
  structureHash : String
  deriving DecidableEq, Repr, Inhabited

instance : Encode Outline where
  encode o :=
    .obj [("functions", encode o.functions), ("imports", encode o.imports), ("structureHash", encode o.structureHash)]

instance : Decode Outline where
  decode? j := do
    return { functions := j.fieldD "functions" [], imports := j.fieldD "imports" [],
             structureHash := j.fieldD "structureHash" "" }

/-- A line of code that imports something. -/
def importPattern : Toolchain → Pattern
  | rust => .all [.textStart, .blanks, .opt (.seq (.lit "pub") .blanks1), .lit "use", .blanks1]
  | go | deno => .all [.textStart, .blanks, .lit "import", .wordEdge]
  | pythonUv => .all [.textStart, .blanks, .words ["import", "from"], .blanks1, .one fun c => !isBlank c]

/-- The outline of a source. -/
def outline (t : Toolchain) (content : List Char) : Outline :=
  let lines := scan t content
  let functions := analyzeFunctions t lines
  let imports := (lines.filter fun line => (importPattern t).occurs line.code).map fun line => String.ofList (trim line.code)
  let spots := functions.map fun f => s!"{f.name}@{f.line}-{f.endLine}"
  let digest := Digest.hex (Text.join "\n" imports ++ "#" ++ Text.join "|" spots)
  { functions, imports, structureHash := String.ofList (digest.toList.take 16) }

/-- The functions of a file with the largest of their values and the count of its lines of code. -/
structure FileComplexity where
  path : String
  functions : List FunctionInfo
  maxCyclomatic : Nat
  maxCognitive : Nat
  sloc : Nat
  deriving DecidableEq, Repr, Inhabited

instance : Encode FileComplexity where
  encode f :=
    .obj [("path", encode f.path), ("functions", encode f.functions), ("maxCyclomatic", encode f.maxCyclomatic),
      ("maxCognitive", encode f.maxCognitive), ("sloc", encode f.sloc)]

instance : Decode FileComplexity where
  decode? j := do
    return { path := j.fieldD "path" "", functions := j.fieldD "functions" [], maxCyclomatic := j.fieldD "maxCyclomatic" 0,
             maxCognitive := j.fieldD "maxCognitive" 0, sloc := j.fieldD "sloc" 0 }

/-- The largest of some counts, zero when there is none. -/
def largest (values : List Nat) : Nat := values.foldl max 0

/-- The complexity of a file. -/
def fileComplexity (t : Toolchain) (path : String) (content : List Char) : FileComplexity :=
  let lines := scan t content
  let functions := analyzeFunctions t lines
  { path, functions, maxCyclomatic := largest (functions.map (·.cyclomatic)),
    maxCognitive := largest (functions.map (·.cognitive)), sloc := countCode lines }

/-- The complexity of a project's functions in a few numbers. -/
structure ComplexitySummary where
  totalFiles : Nat
  totalFunctions : Nat
  maxCyclomatic : Nat
  maxCognitive : Nat
  medianCyclomatic : Nat
  p90Cyclomatic : Nat
  functionsOverThreshold : Nat
  deriving DecidableEq, Repr, Inhabited

instance : Encode ComplexitySummary where
  encode s :=
    .obj [("totalFiles", encode s.totalFiles), ("totalFunctions", encode s.totalFunctions),
      ("maxCyclomatic", encode s.maxCyclomatic), ("maxCognitive", encode s.maxCognitive),
      ("medianCyclomatic", encode s.medianCyclomatic), ("p90Cyclomatic", encode s.p90Cyclomatic),
      ("functionsOverThreshold", encode s.functionsOverThreshold)]

instance : Decode ComplexitySummary where
  decode? j := do
    return { totalFiles := j.fieldD "totalFiles" 0, totalFunctions := j.fieldD "totalFunctions" 0,
             maxCyclomatic := j.fieldD "maxCyclomatic" 0, maxCognitive := j.fieldD "maxCognitive" 0,
             medianCyclomatic := j.fieldD "medianCyclomatic" 0, p90Cyclomatic := j.fieldD "p90Cyclomatic" 0,
             functionsOverThreshold := j.fieldD "functionsOverThreshold" 0 }

/-- The index of the value that a fraction of `count` sorted values does not exceed. -/
def percentileIndex (fraction : Number) (count : Nat) : Nat :=
  let place := (fraction * Number.ofNat count).ceil - 1
  (Number.min (Number.ofInt ((count : Int) - 1)) (Number.max 0 place)).toNat?.getD 0

/-- The summary of the complexity of some files, with the functions over a threshold counted. -/
def summarizeComplexity (files : List FileComplexity) (threshold : Number) : ComplexitySummary :=
  let values := sortBy compare (files.flatMap fun f => f.functions.map (·.cyclomatic))
  let at_ (fraction : Number) : Nat := (values[percentileIndex fraction values.length]?).getD 0
  { totalFiles := files.length, totalFunctions := values.length, maxCyclomatic := values.getLast?.getD 0,
    maxCognitive := largest (files.map (·.maxCognitive)), medianCyclomatic := at_ 0.5, p90Cyclomatic := at_ 0.9,
    functionsOverThreshold := values.countP fun v => threshold.lt (Number.ofNat v) }

end QualityGate
