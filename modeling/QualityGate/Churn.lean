import QualityGate.Figure
import QualityGate.Text.Collation
import QualityGate.Text.Path
import QualityGate.Time.Reading

/-!
# Churn

Which files change how often, by whom and how much, read off a version control log that prints a header line per commit (`commit:`,
hash, author and date, separated by bars) and a line per changed file with the added and deleted lines.
-/

namespace QualityGate

/-- The changes of a file. -/
structure FileChurn where
  path : String
  commitCount : Nat
  uniqueAuthors : List String
  additions : Number
  deletions : Number
  lastModified : String
  firstSeen : String
  churnScore : Number
  deriving DecidableEq, Inhabited

instance : Encode FileChurn where
  encode f :=
    .obj [("path", encode f.path), ("commitCount", encode f.commitCount), ("uniqueAuthors", encode f.uniqueAuthors),
      ("additions", encode f.additions), ("deletions", encode f.deletions), ("lastModified", encode f.lastModified),
      ("firstSeen", encode f.firstSeen), ("churnScore", encode f.churnScore)]

instance : Decode FileChurn where
  decode? j := do
    return { path := j.fieldD "path" "", commitCount := j.fieldD "commitCount" 0,
             uniqueAuthors := j.fieldD "uniqueAuthors" [], additions := j.fieldD "additions" 0,
             deletions := j.fieldD "deletions" 0, lastModified := j.fieldD "lastModified" "",
             firstSeen := j.fieldD "firstSeen" "", churnScore := j.fieldD "churnScore" 0 }

/-- The changes of a project in a few numbers. -/
structure ChurnSummary where
  totalCommits : Nat
  totalFilesChanged : Nat
  hotspotFiles : List String
  stableFiles : List String
  authorContributions : Record Figure
  deriving DecidableEq, Inhabited

instance : Encode ChurnSummary where
  encode s :=
    .obj [("totalCommits", encode s.totalCommits), ("totalFilesChanged", encode s.totalFilesChanged),
      ("hotspotFiles", encode s.hotspotFiles), ("stableFiles", encode s.stableFiles),
      ("authorContributions", Figure.recordJson s.authorContributions)]

instance : Decode ChurnSummary where
  decode? j := do
    return { totalCommits := j.fieldD "totalCommits" 0, totalFilesChanged := j.fieldD "totalFilesChanged" 0,
             hotspotFiles := j.fieldD "hotspotFiles" [], stableFiles := j.fieldD "stableFiles" [],
             authorContributions := ((j.get? "authorContributions").bind Json.decodeRecord?).getD [] }

/-- The changes of a project over some days. -/
structure ChurnAnalysis where
  periodDays : Number
  files : List FileChurn
  summary : ChurnSummary
  deriving DecidableEq, Inhabited

instance : Encode ChurnAnalysis where
  encode a := .obj [("periodDays", encode a.periodDays), ("files", encode a.files), ("summary", encode a.summary)]

instance : Decode ChurnAnalysis where
  decode? j := do
    return { periodDays := j.fieldD "periodDays" 0, files := j.fieldD "files" [], summary := j.fieldD "summary" default }

namespace Churn

/-- How the log prints a commit. -/
def logFormat : String := "commit:%H|%an|%aI"

/-- Milliseconds of a day. -/
def dayMillis : Number := 86400000

/-- A commit as its header tells it. -/
structure Commit where
  author : String
  date : Instant
  deriving DecidableEq, Repr

/-- The commit that a line announces: the author between the first two bars and the date after them. -/
def header? (line : List Char) : Option Commit :=
  if "commit:".toList.isPrefixOf line then
    match splitWhere (· = '|') (line.drop 7) with
    | _ :: author :: iso :: _ =>
      if author.isEmpty then none
      else (Instant.ofText? (String.ofList iso)).map fun date => ⟨String.ofList author, date⟩
    | _ => none
  else none

/-- A count of lines: digits, or a hyphen for a binary file. -/
def lineCount? (field : List Char) : Option Number :=
  if field = ['-'] then some 0
  else if !field.isEmpty && field.all Char.isDigit then some (Number.ofDigitText field)
  else none

/-- A line of changes: added and deleted lines and the path. -/
structure Change where
  additions : Number
  deletions : Number
  path : String
  deriving DecidableEq

/-- The change that a line tells. -/
def change? (line : List Char) : Option Change := do
  let first := line.takeWhile (· ≠ '\t')
  let afterFirst := line.drop first.length
  let second := (afterFirst.drop 1).takeWhile (· ≠ '\t')
  let afterSecond := (afterFirst.drop 1).drop second.length
  let path := afterSecond.drop 1
  let additions ← lineCount? first
  let deletions ← lineCount? second
  if afterFirst.isEmpty ∨ afterSecond.isEmpty ∨ path.isEmpty ∨ path.any isLineEnd then none
  else return ⟨additions, deletions, normalizePath (String.ofList path)⟩

/-- What has been seen of a file. -/
structure History where
  commits : Nat
  authors : List String
  additions : Number
  deletions : Number
  first : Instant
  last : Instant
  deriving DecidableEq

/-- The history of a file with one more change. -/
def History.add (h : History) (commit : Commit) (change : Change) : History where
  commits := h.commits + 1
  authors := if h.authors.contains commit.author then h.authors else h.authors ++ [commit.author]
  additions := h.additions + change.additions
  deletions := h.deletions + change.deletions
  first := min h.first commit.date
  last := max h.last commit.date

/-- What has been read of a log. -/
structure Log where
  commit : Option Commit
  commits : Nat
  contributions : Record Figure
  files : List (String × History)

/-- The histories with one more change; a file seen for the first time comes last. -/
def addChange (files : List (String × History)) (commit : Commit) (change : Change) : List (String × History) :=
  let fresh : History := ⟨0, [], 0, 0, commit.date, commit.date⟩
  if (files.lookup change.path).isSome then
    files.map fun (path, h) => if path = change.path then (path, h.add commit change) else (path, h)
  else files ++ [(change.path, fresh.add commit change)]

/-- One line of a log. A line that is neither a header nor a change says nothing. -/
def readLine (log : Log) (raw : List Char) : Log :=
  let line := trimEnd raw
  match header? line with
  | some commit =>
    { log with commit := some commit, commits := log.commits + 1,
               contributions := log.contributions.count commit.author }
  | none =>
    match log.commit, change? line with
    | some commit, some change => { log with files := addChange log.files commit change }
    | _, _ => log

/-- What a log says. -/
def readLog (output : List Char) : Log := (splitLines output).foldl readLine ⟨none, 0, [], []⟩

/-- The days between two instants. -/
def daysBetween (earlier later : Instant) : Number := (Number.ofInt (later - earlier)) / dayMillis

/-- Commits weighed by the age of the file, and a tenth for each author. -/
def rawScore (h : History) (now : Instant) : Number :=
  Number.ofNat h.commits / (1 + Number.max 0 (daysBetween h.first now)) + 0.1 * Number.ofNat h.authors.length

/-- A file that more than five commits touch. -/
def isHotspot (commitCount : Number) : Bool := Number.lt 5 commitCount

/-- A file that at most one commit touches, longer than sixty days ago. -/
def isStable (commitCount : Number) (lastModified : String) (now : Instant) : Bool :=
  commitCount.le 1 && (Instant.ofText? lastModified).any fun last => Number.lt 60 (daysBetween last now)

/-- The churn that a log shows. -/
def ofLog (output : List Char) (periodDays : Number) (now : Instant) : ChurnAnalysis :=
  let log := readLog output
  let raws := log.files.map fun (path, h) => (path, h, rawScore h now)
  let top := raws.foldl (fun m (_, _, score) => Number.max m score) 0
  let churnOf (path : String) (h : History) (score : Number) : FileChurn :=
    { path, commitCount := h.commits, uniqueAuthors := sortTexts h.authors, additions := h.additions, deletions := h.deletions,
      lastModified := Instant.text h.last, firstSeen := Instant.text h.first,
      churnScore := if Number.lt 0 top then (score / top).toPlaces 4 else 0 }
  let files := sortBy (fun a b => (Number.order b.churnScore a.churnScore).then (Collation.order a.path b.path))
    (raws.map fun (path, h, score) => churnOf path h score)
  { periodDays, files,
    summary :=
      { totalCommits := log.commits, totalFilesChanged := files.length,
        hotspotFiles := (files.filter fun f => isHotspot (.ofNat f.commitCount)).map (·.path),
        stableFiles := (files.filter fun f => isStable (.ofNat f.commitCount) f.lastModified now).map (·.path),
        authorContributions := log.contributions } }

/-- The churn of a project without a log. -/
def empty (periodDays : Number) : ChurnAnalysis := ⟨periodDays, [], ⟨0, 0, [], [], []⟩⟩

end Churn

end QualityGate
