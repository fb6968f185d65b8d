import QualityGate.Figure
import QualityGate.Text.Path
import QualityGate.Text.Pattern

/-!
# Coverage reports

The printed reports of three coverage tools, read into a percentage for the project and one for each file.
-/

namespace QualityGate

/-- The coverage of a project and of its files, in percent. -/
structure CoverageReport where
  totalPercent : Option Number
  byFile : Record Number
  deriving DecidableEq, Inhabited

instance : Encode CoverageReport where
  encode r :=
    .obj [("totalPercent", encode r.totalPercent), ("byFile", .obj (r.byFile.map fun (file, x) => (file, encode x)))]

instance : Decode CoverageReport where
  decode? j := do
    return { totalPercent := j.fieldD "totalPercent" none,
             byFile := ((j.get? "byFile").bind Json.decodeRecord?).getD [] }

namespace CoverageReport

def empty : CoverageReport := ⟨none, []⟩

/-- The number at the start of a text, if there is one. -/
def percent? (text : List Char) : Option Number :=
  let x := Number.ofLeadingText (String.ofList text)
  if x.isNan then none else some x

/-- The percentages among the words of a line. -/
def percents (line : List Char) : List Number :=
  ((splitBlanks line).filter fun w => w.getLast? = some '%').filterMap fun w => percent? w.dropLast

/-- A report with the percentage of a file. -/
def setFile (r : CoverageReport) (file : List Char) (x : Number) : CoverageReport :=
  { r with byFile := r.byFile.assign (String.ofList (Path.normalChars file)) x }

/-- A line of a region report: lines are the second percentage, or the only one, and `TOTAL` stands for the project. -/
def readRegionLine (r : CoverageReport) (line : List Char) : CoverageReport :=
  let body := trim line
  if body.isEmpty ∨ "Filename".toList.isPrefixOf body ∨ body.head? = some '-' then r
  else
    let xs := percents body
    match xs[1]? <|> xs[0]? with
    | none => r
    | some x =>
      match (splitBlanks body).head? with
      | some name =>
        if name = "TOTAL".toList then { r with totalPercent := some x }
        else if name.isEmpty then r
        else r.setFile name x
      | none => r

/-- A line of a file list: a path, a colon and a percentage. -/
def readFileLine (r : CoverageReport) (line : List Char) : CoverageReport :=
  match lastIndexOf? ':' line with
  | none | some 0 => r
  | some i =>
    let value := trim (line.drop (i + 1))
    if value.getLast? ≠ some '%' then r
    else
      match percent? value.dropLast with
      | some x => r.setFile (trim (line.take i)) x
      | none => r

/-- A file in a summary of covered lines. -/
def coveredLines : Pattern :=
  .all [.textStart, .lit "||", .blanks1, .group 1 (.times true 1 none .inLine), .lit ":", .blanks1,
    .group 2 (.many1 .digit), .lit "/", .group 3 (.many1 .digit)]

/-- The percentage that covered lines are of all. -/
def ratio (covered total : Number) : Number := if total.same 0 then 0 else covered / total * 100

/-- A line of a summary of covered lines: a file with its counts, or the percentage of the project. -/
def readSummaryLine (r : CoverageReport) (line : List Char) : CoverageReport :=
  match coveredLines.find (trim line) with
  | some m =>
    let count (i : Nat) : Number := Number.ofDigitText ((m.group i).getD [])
    r.setFile ((m.group 1).getD []) (ratio (count 2) (count 3))
  | none =>
    if contains line "coverage".toList || contains line "Coverage".toList then
      match (percents line).head? with
      | some x => { r with totalPercent := some x }
      | none => r
    else r

/-- The report that lines add up to. -/
def ofLines (read : CoverageReport → List Char → CoverageReport) (output : String) : CoverageReport :=
  (splitLines output.toList).foldl read empty

/-- Reads a region report. -/
def ofRegions (output : String) : CoverageReport := ofLines readRegionLine output

/-- Reads a list of files. -/
def ofFileList (output : String) : CoverageReport := ofLines readFileLine output

/-- Reads a summary of covered lines. -/
def ofSummary (output : String) : CoverageReport := ofLines readSummaryLine output

/-- Whether one path ends in a slash and the other. -/
def isTail (path tail : List Char) : Bool := ('/' :: tail).isSuffixOf path

/-- The percentage of a file's own entry: under its very path, else what every record answers to that path, else under the first
path of which one is the end of the other. -/
def ofFile? (r : CoverageReport) (file : String) : Option Figure :=
  let target := normalizePath file
  let tail (entry : String × Number) : Bool := isTail entry.1.toList target.toList || isTail target.toList entry.1.toList
  match r.byFile.get? target, Inherited.ofName? target with
  | some x, _ => some x
  | none, some answer => some (.inherited answer)
  | none, none => (r.byFile.find? tail).map fun entry => .number entry.2

/-- The percentage of a file, that of the project when the file has no entry. -/
def ofFileOrTotal? (r : CoverageReport) (file : String) : Option Figure := r.ofFile? file <|> r.totalPercent.map .number

/-- The percentage of the project; without one, the mean over the files. -/
def project (r : CoverageReport) : Number :=
  match r.totalPercent with
  | some x => x
  | none =>
    let xs := r.byFile.values
    if xs.isEmpty then 0 else Number.sum xs / Number.ofNat xs.length

end CoverageReport

end QualityGate
