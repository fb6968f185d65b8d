import QualityGate.Json

/-!
# Quality profile and metrics

A profile holds the limits that a project has to keep; the metrics are what has been measured. Both are over any type of numbers:
the program measures with floating-point numbers, and what holds of exact numbers can be said of the same definitions.
-/

namespace QualityGate

/-- The limits of the quality gates. -/
structure ProfileOf (ν : Type) where
  coverageMin : ν
  complexityMax : ν
  complexityTarget : ν
  satdAllowed : ν
  deriving DecidableEq, Inhabited

abbrev Profile := ProfileOf Number

namespace Profile

/-- The limits that hold when a user sets none. -/
def extreme : Profile := ⟨80, 10, 5, 0⟩

instance : Encode Profile where
  encode p :=
    .obj [("coverageMin", encode p.coverageMin), ("complexityMax", encode p.complexityMax),
      ("complexityTarget", encode p.complexityTarget), ("satdAllowed", encode p.satdAllowed)]

instance : Decode Profile where
  decode? j := do
    return { coverageMin := j.fieldD "coverageMin" .nan, complexityMax := j.fieldD "complexityMax" .nan,
             complexityTarget := j.fieldD "complexityTarget" .nan, satdAllowed := j.fieldD "satdAllowed" .nan }

end Profile

/-- What has been measured of a project. -/
structure MetricsOf (ν : Type) where
  totalViolations : ν
  filesWithIssues : ν
  totalFiles : ν
  coveragePercent : ν
  maxComplexity : ν
  functionsWithHighComplexity : ν
  totalFunctions : ν
  satdCount : ν
  deriving DecidableEq, Inhabited

abbrev Metrics := MetricsOf Number

namespace Metrics

/-- The metrics of a project of which nothing is known. -/
def empty : Metrics := ⟨0, 0, 0, 0, 0, 0, 0, 0⟩

instance : Encode Metrics where
  encode m :=
    .obj [("totalViolations", encode m.totalViolations), ("filesWithIssues", encode m.filesWithIssues),
      ("totalFiles", encode m.totalFiles), ("coveragePercent", encode m.coveragePercent),
      ("maxComplexity", encode m.maxComplexity),
      ("functionsWithHighComplexity", encode m.functionsWithHighComplexity),
      ("totalFunctions", encode m.totalFunctions), ("satdCount", encode m.satdCount)]

instance : Decode Metrics where
  decode? j := do
    return { totalViolations := j.fieldD "totalViolations" .nan, filesWithIssues := j.fieldD "filesWithIssues" .nan,
             totalFiles := j.fieldD "totalFiles" .nan, coveragePercent := j.fieldD "coveragePercent" .nan,
             maxComplexity := j.fieldD "maxComplexity" .nan,
             functionsWithHighComplexity := j.fieldD "functionsWithHighComplexity" .nan,
             totalFunctions := j.fieldD "totalFunctions" .nan, satdCount := j.fieldD "satdCount" .nan }

/-- Two measurements agree in every metric. -/
def same (a b : Metrics) : Bool :=
  a.totalViolations.same b.totalViolations && a.filesWithIssues.same b.filesWithIssues &&
    a.totalFiles.same b.totalFiles && a.coveragePercent.same b.coveragePercent && a.maxComplexity.same b.maxComplexity &&
    a.functionsWithHighComplexity.same b.functionsWithHighComplexity && a.totalFunctions.same b.totalFunctions &&
    a.satdCount.same b.satdCount

end Metrics

end QualityGate
