import QualityGate.Issue
import QualityGate.Source.TestDependencies
import QualityGate.World

/-!
# Modes of a refactor run

A run works on a whole project, or on the files that its mode names: one file, a test with what it depends on, or the files that an
issue or a bug report mentions. Files that are only mentioned count when they exist.
-/

namespace QualityGate

/-- What a run works on. -/
inductive RefactorMode where
  | normal
  | singleFile (file : String)
  | testDriven (testFile : String) (testName : Option String)
  | issueDriven (url : String)
  | bugReport (path : String)
  deriving DecidableEq, Repr, Inhabited

namespace RefactorMode

def name : RefactorMode → String
  | normal => "Normal"
  | singleFile _ => "SingleFile"
  | testDriven .. => "TestDriven"
  | issueDriven _ => "IssueDriven"
  | bugReport _ => "BugReport"

instance : Encode RefactorMode where
  encode m :=
    let more : List (String × Option Json) := match m with
      | normal => []
      | singleFile file => [("file", some (.str file))]
      | testDriven file test => [("testFile", some (.str file)), ("testName", test.map .str)]
      | issueDriven url => [("issueUrl", some (.str url))]
      | bugReport path => [("reportPath", some (.str path))]
    .present (("kind", some (.str m.name)) :: more)

instance : Decode RefactorMode where
  decode? j :=
    match j.fieldD "kind" "" with
    | "SingleFile" => some (singleFile (j.fieldD "file" ""))
    | "TestDriven" => some (testDriven (j.fieldD "testFile" "") (j.fieldD "testName" none))
    | "IssueDriven" => some (issueDriven (j.fieldD "issueUrl" ""))
    | "BugReport" => some (bugReport (j.fieldD "reportPath" ""))
    | _ => some normal

end RefactorMode

/-- The files that a run is limited to, if it is, and what its requests tell besides. -/
structure ModeTargets where
  targetSet : Option (List String)
  issue : Option IssueContext
  bugReport : Option String
  deriving DecidableEq, Inhabited

instance : Encode ModeTargets where
  encode t := .obj [("targetSet", encode t.targetSet), ("issue", encode t.issue), ("bugReport", encode t.bugReport)]

instance : Decode ModeTargets where
  decode? j := do
    return { targetSet := j.fieldD "targetSet" none, issue := j.fieldD "issue" none, bugReport := j.fieldD "bugReport" none }

/-- Where issues are looked up. -/
abbrev IssueTracker (η : Type) := IssueReference → Action η IssueDocument

namespace ModeTargets

/-- No limit, and nothing to tell. -/
def all : ModeTargets := ⟨none, none, none⟩

/-- The path of a file seen from the root of a project. -/
def inProject (root file : String) : String := normalizePath (Path.relative root (Path.resolve root file))

variable {η : Type}

/-- A file of a project that has to be there: its path in the project and its text. -/
def required (root file what : String) : Action η (String × String) := do
  let path := inProject root file
  match ← Action.readText? (Path.join [root, path]) with
  | some text => return (path, text)
  | none => Action.fail (.configuration s!"{what} not found: {file}")

/-- The files of a project that are there, sorted. -/
def existing (root : String) (files : List String) : Action η (List String) := do
  let disk := (← Action.world).disk
  return sortTexts (distinct ((files.map (inProject root)).filter fun path => (disk.at? (Path.join [root, path])).isSome))

/-- No files at all are no limit. -/
def limit (files : List String) : Option (List String) := if files.isEmpty then none else some files

/-- The targets of a mode. -/
def ofMode (root : String) (t : Toolchain) (tracker : IssueTracker η) : RefactorMode → Action η ModeTargets
  | .normal => return all
  | .singleFile file => do
    let (path, _) ← required root file "File"
    return { all with targetSet := some [path] }
  | .testDriven testFile _ => do
    let (path, text) ← required root testFile "Test file"
    let found ← existing root (testDependencyCandidates t path text.toList)
    return { all with targetSet := some (path :: found.filter (· ≠ path)) }
  | .issueDriven url => do
    match Issue.ofUrl? url with
    | none => Action.fail (.configuration s!"Not a GitHub issue URL: {url}")
    | some reference =>
      let issue := Issue.context (← tracker reference)
      return { all with targetSet := limit (← existing root issue.files), issue := some issue }
  | .bugReport path => do
    let (_, text) ← required root path "Bug report"
    return { all with targetSet := limit (← existing root (BugReport.files text)), bugReport := some text }

end ModeTargets

end QualityGate
