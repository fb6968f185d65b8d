import QualityGate.Number.Decimal
import QualityGate.Json
import QualityGate.Text.Case
import QualityGate.Text.Collation
import QualityGate.Text.Pattern
import QualityGate.Text.Search

/-!
# Issues and bug reports

What a reported issue says about where to work: its categories by keyword, the files it mentions and a short summary. A bug report
is a text of which only the mentioned files matter.
-/

namespace QualityGate

/-- A category that an issue talks about, with its weight relative to the strongest one and the keywords found. -/
structure IssueKeyword where
  category : String
  weight : Number
  hits : List String
  deriving DecidableEq, Inhabited

instance : Encode IssueKeyword where
  encode k := .obj [("category", encode k.category), ("matches", encode k.hits), ("weight", encode k.weight)]

instance : Decode IssueKeyword where
  decode? j := do
    return { category := j.fieldD "category" "", weight := j.fieldD "weight" 0, hits := j.fieldD "matches" [] }

/-- What an issue says. -/
structure IssueContext where
  title : String
  summary : String
  keywords : List IssueKeyword
  priorityAreas : List String
  files : List String
  deriving DecidableEq, Inhabited

instance : Encode IssueContext where
  encode c :=
    .obj [("title", encode c.title), ("summary", encode c.summary), ("keywords", encode c.keywords),
      ("priorityAreas", encode c.priorityAreas), ("files", encode c.files)]

instance : Decode IssueContext where
  decode? j := do
    return { title := j.fieldD "title" "", summary := j.fieldD "summary" "", keywords := j.fieldD "keywords" [],
             priorityAreas := j.fieldD "priorityAreas" [], files := j.fieldD "files" [] }

/-- The place of an issue: who owns it, in which repository, and its number. -/
structure IssueReference where
  owner : String
  repo : String
  number : Nat
  deriving DecidableEq, Repr

instance : Encode IssueReference where
  encode r := .obj [("owner", encode r.owner), ("repo", encode r.repo), ("number", encode r.number)]

/-- An issue as it was written. -/
structure IssueDocument where
  title : String
  body : Option String
  deriving DecidableEq, Repr, Inhabited

instance : Decode IssueDocument where
  decode? j := do
    return { title := j.fieldD "title" "", body := j.fieldD "body" none }

namespace Issue

/-- The categories with their base weight and keywords. -/
def catalog : List (String × Number × List String) :=
  [("Performance", 3, ["performance", "slow", "optimize", "speed", "latency", "throughput"]),
   ("Correctness", 3, ["bug", "error", "fix", "crash", "panic", "broken", "incorrect"]),
   ("Complexity", 2.5, ["unreadable", "confusing", "cleanup", "refactor", "complex", "complicated", "simplify"]),
   ("Security", 4, ["security", "vulnerability", "exploit", "injection", "unsafe"]),
   ("TechnicalDebt", 2, ["debt", "todo", "fixme", "hack", "workaround", "temporary"]),
   ("Maintainability", 2, ["maintain", "maintenance", "coupling", "cohesion", "modular"])]

/-- The address of an issue. -/
def address : Pattern :=
  .all [.lit "github.com/", .group 1 (.many1 (.butNot '/')), .lit "/", .group 2 (.many1 (.butNot '/')), .lit "/issues/",
    .group 3 (.many1 .digit)]

/-- The issue that an address names. -/
def ofUrl? (url : String) : Option IssueReference := do
  let m ← address.find url.toList
  let owner ← m.group 1
  let repo ← m.group 2
  let number ← m.group 3
  return ⟨String.ofList owner, String.ofList repo, Number.ofDigits 10 number⟩

/-- The weight of a category after one more keyword that was found `count` times: each repetition adds a fifth, up to double weight,
and the category never weighs more than double. -/
def addHit (base total : Number) (count : Nat) : Number :=
  let factor := Number.min (1 + Number.ofNat (count - 1) * 0.2) 2
  Number.min (total + base * factor) (base * 2)

/-- The weight and the hits of a category in a text in small letters, if there are any. -/
def keywordOf? (text : List Char) (category : String) (base : Number) (keywords : List String) : Option IssueKeyword :=
  let counted := keywords.map fun k => (k, countOf k.toList (text.length + 1) text)
  let found := counted.filter fun (_, count) => 0 < count
  if found.isEmpty then none
  else some ⟨category, found.foldl (fun total (_, count) => addHit base total count) 0, found.map (·.1)⟩

/-- The categories of a text, strongest first, with the strongest at weight one. -/
def keywords (text : String) : List IssueKeyword :=
  let small := lowered text.toList
  let found := catalog.filterMap fun (category, base, ks) => keywordOf? small category base ks
  let strongest := found.foldl (fun m k => Number.max m k.weight) 0
  if strongest.le 0 then found
  else
    sortBy (fun a b => (Number.order b.weight a.weight).then (Collation.order a.category b.category))
      (found.map fun k => { k with weight := (k.weight / strongest).toPlaces 4 })

/-- How much of the body's first paragraph a summary quotes, in units. -/
def summaryLimit : Nat := 200

/-- The title and the start of the body. -/
def summarize (issue : IssueDocument) : String :=
  let paragraph := ((Text.split (issue.body.getD "") "\n\n").head?.getD "").toList
  let quoted :=
    if summaryLimit < units paragraph then takeUnits summaryLimit paragraph ++ ['.', '.', '.'] else paragraph
  if quoted.isEmpty then issue.title else s!"{issue.title}\n\n{String.ofList quoted}"

/-- The extensions of files that an issue may mention. -/
def knownExtensions : List String := ["rs", "ts", "tsx", "js", "jsx", "py", "go", "md", "toml"]

/-- Whether a text names a file of a known kind. -/
def hasKnownExtension (candidate : List Char) : Bool :=
  match lastIndexOf? '.' candidate with
  | some i => 0 < i && knownExtensions.contains (String.ofList (lowered (candidate.drop (i + 1))))
  | none => false

/-- A letter or digit. -/
def plain : Pattern := .one Char.isAlphanum

/-- A file name in code quotes. -/
def quotedFile : Pattern :=
  .all [.lit "\x60",
    .group 1 (.all [.many1 (.one fun c => isWordChar c || c = '-' || c = '.' || c = '/'), .lit ".", .many1 plain]),
    .lit "\x60"]

/-- A path with an extension. -/
def barePath : Pattern :=
  let name : Pattern := .many1 (.one fun c => isWordChar c || c = '-')
  .all [.wordEdge, .many (.seq name (.lit "/")), name, .lit ".", .many1 plain, .wordEdge]

/-- Names joined by double colons. -/
def modulePath : Pattern :=
  .all [.wordEdge, .many1 .wordChar, .many1 (.seq (.lit "::") (.many1 .wordChar)), .wordEdge]

/-- Double colons turned to slashes. -/
def colonsToSlashes : List Char → List Char
  | ':' :: ':' :: rest => '/' :: colonsToSlashes rest
  | c :: rest => c :: colonsToSlashes rest
  | [] => []

/-- The files that a text mentions, sorted. -/
def files (text : String) : List String :=
  let body := text.toList
  let quoted := (quotedFile.findAll body).filterMap fun m => m.group 1
  let bare := (barePath.findAll body).map Pattern.Found.text
  let modules := (modulePath.findAll body).map fun m => "src/".toList ++ colonsToSlashes m.text ++ ".rs".toList
  sortTexts (distinct (((quoted ++ bare).filter hasKnownExtension ++ modules).map String.ofList))

/-- What an issue says. -/
def context (issue : IssueDocument) : IssueContext :=
  let text := issue.title ++ " " ++ issue.body.getD ""
  let ks := keywords text
  { title := issue.title, summary := summarize issue, keywords := ks, priorityAreas := ks.map (·.category),
    files := files text }

/-- What an agent is told about an issue. -/
def priorityInstructions (c : IssueContext) : String :=
  "PRIORITY: Focus on fixing issues related to: " ++ Text.join ", " c.priorityAreas ++
    ". The reporter identified these areas as problematic in the GitHub issue."

end Issue

namespace BugReport

/-- The extensions of files that a report may mention. -/
def extensions : List String := [".rs", ".ts", ".js", ".py", ".md"]

/-- A word without the signs around a path. -/
def trimEdges (word : List Char) : List Char :=
  let front := word.dropWhile fun c => !(c.isAlphanum || c = '/' || c = '.' || c = '_' || c = '-')
  (front.reverse.dropWhile fun c => !c.isAlphanum).reverse

/-- The files that the words of a line mention. -/
def filesOfLine (line : List Char) : List (List Char) :=
  if ["src/", "server/", "docs/"].any (fun d => contains line d.toList) then
    (((splitBlanks line).filter fun word =>
      !"http".toList.isPrefixOf word && extensions.any fun e => contains word e.toList).map trimEdges).filter (!·.isEmpty)
  else []

/-- The lines outside fenced blocks. -/
def outsideFences (fenced : Bool) : List (List Char) → List (List Char)
  | [] => []
  | line :: rest =>
    if "\x60\x60\x60".toList.isPrefixOf line then outsideFences (!fenced) rest
    else if fenced then outsideFences fenced rest
    else line :: outsideFences fenced rest

/-- The files that a bug report mentions outside fenced blocks, sorted. -/
def files (markdown : String) : List String :=
  sortTexts (distinct (((outsideFences false (splitLines markdown.toList)).flatMap filesOfLine).map String.ofList))

/-- What an agent is told about a bug report. -/
def instructions : String :=
  "This is a bug report that needs to be analyzed. If the report mentions specific files or code issues, prioritize fixing " ++
    "those referenced problems; if the report itself needs fixing, ensure proper formatting, clear structure and accurate " ++
    "technical details."

end BugReport

end QualityGate
