import QualityGate.Analysis.DeepContext
import QualityGate.Text.Pattern

/-!
# The context of a project as Markdown

Chapters in a fixed order. Each file has a section of its own, and `sectionOf?` finds it again.
-/

namespace QualityGate.DeepContext

/-- The heading of a file's section. -/
def fileHeading (path : String) : String := s!"### ./{path}"

/-- The line of a function in a file's section. -/
def functionLine (f : FunctionInfo) : String := s!"- **Function**: \x60{f.name}\x60 [complexity: {f.cyclomatic}]"

/-- The scores of a file on one line. -/
def scoreLine (f : ContextFile) : String :=
  let defect := f.defectScore.fixed 3
  let debt := f.tdg.fixed 3
  s!"**Defect Score**: {defect} | **SATD Items**: {f.satdItems.shown} | **Dead Code Items**: {f.deadCodeItems} | **TDG**: {debt} ({f.tdgBand.name})"

/-- The section of a file. -/
def fileSection (f : ContextFile) : String :=
  let functions := if f.functions.isEmpty then [] else "" :: f.functions.map functionLine
  Text.join "\n" ([fileHeading f.path, "", scoreLine f] ++ functions)

/-- A table with a header. -/
def table (header : List String) (rows : List (List String)) : String :=
  let row (cells : List String) : String :=
    let inner := Text.join " | " cells
    s!"| {inner} |"
  Text.join "\n" (row header :: row (header.map fun _ => "---") :: rows.map row)

def executiveSummary (c : DeepContext) : String :=
  Text.join "\n" ["## Executive Summary", "", s!"**Generated:** {c.generatedAt}", s!"**Project:** {c.projectPath}",
    s!"**Toolchain:** {c.toolchain.name}", s!"**Files Analyzed:** {c.summary.totalFiles}",
    s!"**Functions Analyzed:** {c.summary.totalFunctions}",
    s!"**Functions Over Threshold ({c.threshold.text}):** {c.summary.functionsOverThreshold}"]

def scorecardChapter (s : Scorecard) : String :=
  let health := s.overallHealth.fixed 1
  let maintainability := s.maintainabilityIndex.fixed 1
  let complexity := s.complexityScore.fixed 1
  let debt := s.technicalDebtHours.fixed 1
  Text.join "\n" ["## Quality Scorecard", "", s!"- **Overall Health**: {health}%",
    s!"- **Maintainability Index**: {maintainability}%", s!"- **Complexity Score**: {complexity}%",
    s!"- **Technical Debt**: {debt} hours"]

def hotspotTable (hotspots : List ComplexityHotspot) : String :=
  if hotspots.isEmpty then "No functions found."
  else
    table ["Function", "File", "Line", "Cyclomatic", "Cognitive"]
      (hotspots.map fun h => [s!"\x60{h.function}\x60", h.file, toString h.line, toString h.cyclomatic, toString h.cognitive])

def churnChapter (c : ChurnAnalysis) : String :=
  let hot := if c.summary.hotspotFiles.isEmpty then "none" else Text.join ", " c.summary.hotspotFiles
  Text.join "\n" ["## Code Churn", "", s!"- **Period**: {c.periodDays.text} days",
    s!"- **Total Commits**: {c.summary.totalCommits}", s!"- **Files Changed**: {c.summary.totalFilesChanged}",
    s!"- **Hotspots**: {hot}"]

def debtChapter (t : DebtTally) : String :=
  let high := t.bySeverity .high
  let medium := t.bySeverity .medium
  let low := t.bySeverity .low
  Text.join "\n" ["## Technical Debt (SATD)", "", s!"- **Total Items**: {t.totalItems}",
    s!"- **Files With SATD**: {t.filesWithSatd}", s!"- **By Severity**: high {high}, medium {medium}, low {low}"]

def deadCodeChapter (s : DeadCodeSummary) : String :=
  let share := s.deadPercentage.fixed 1
  Text.join "\n" ["## Dead Code", "", s!"- **Files With Dead Code**: {s.filesWithDeadCode}",
    s!"- **Dead Lines**: {s.totalDeadLines} ({share}%)", s!"- **Dead Functions**: {s.deadFunctions}",
    s!"- **Unreachable Blocks**: {s.unreachableBlocks}"]

/-- Lines with their numbers in front. -/
def numberedLines (lines : List String) : String :=
  Text.join "\n" (lines.zipIdx.map fun (line, i) => s!"{i + 1}. {line}")

def defectList (defects : List PredictedDefect) : String :=
  if defects.isEmpty then "No files show defect risk."
  else
    numberedLines (defects.map fun d =>
      let score := d.defectScore.fixed 3
      let reasons := Text.join ", " d.factors
      s!"{d.file} (score {score}): {reasons}")

def recommendationList (rs : List Recommendation) : String :=
  if rs.isEmpty then "No recommendations."
  else numberedLines (rs.map fun r => s!"**{r.title}** (Priority: {r.priority.name})\n   {r.description}")

/-- The chapters and sections, in their order. -/
def chapters (c : DeepContext) : List String :=
  ["# Deep Context Analysis", executiveSummary c, scorecardChapter c.scorecard, "## Project Structure"] ++
    (if c.files.isEmpty then ["No source files found."] else c.files.map fileSection) ++
    ["## Complexity Hotspots", hotspotTable c.complexityHotspots, churnChapter c.churn, debtChapter c.satd.summary,
      deadCodeChapter c.deadCode.summary, "## Predicted Defects", defectList c.predictedDefects, "## Recommendations",
      recommendationList c.recommendations]

/-- The context as Markdown. -/
def markdown (c : DeepContext) : String := Text.join "\n\n" (chapters c) ++ "\n"

/-- The name in the heading of a section. -/
def sectionName? (line : List Char) : Option (List Char) :=
  if "### ".toList.isPrefixOf line then some (trim (line.drop 4)) else none

/-- Whether a line is a heading of level three or above. -/
def isHeading (line : List Char) : Bool :=
  ["# ", "## ", "### "].any fun lead => lead.toList.isPrefixOf line

/-- From the first line whose section name keeps a condition, that line and the lines after it. -/
def fromSection (holds : List Char → Bool) : List (List Char) → Option (List (List Char))
  | [] => none
  | line :: rest => if (sectionName? line).any holds then some (line :: rest) else fromSection holds rest

/-- The lines of the section of a file, from its heading on: the heading that names it exactly, or else one that ends with it. -/
def sectionLines? (markdown : List Char) (target : List Char) : Option (List (List Char)) :=
  let lines := splitLines markdown
  let found := match fromSection (fun name => name = '.' :: '/' :: target ∨ name = target) lines with
    | some here => some here
    | none => fromSection (fun name => ('/' :: target).isSuffixOf name) lines
  found.map fun
    | [] => []
    | heading :: rest => heading :: rest.takeWhile (!isHeading ·)

/-- The section of a file in a context written as Markdown. -/
def sectionOf? (markdown file : String) : Option String :=
  (sectionLines? markdown.toList (Path.normalChars file.toList)).map fun lines => String.ofList (trim (joinLines lines))

end QualityGate.DeepContext
