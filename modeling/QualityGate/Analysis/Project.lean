import QualityGate.Analysis.Findings
import QualityGate.Bounded
import QualityGate.Glob
import QualityGate.Text.Pattern
import QualityGate.World

/-!
# Projects on disk

Where a project stands, which of its files are sources, and the workspace that it is part of.
-/

namespace QualityGate

namespace Discovery

/-- Whether a directory of other people's files, or a hidden one, is left out; one that is included by name is not. -/
def skipsDirectory (f : Filters) (relative name : String) : Bool :=
  (vendorDirectories.contains name || Text.starts name ".") &&
    !(!f.include_.isEmpty && matchesAny (relative ++ "/") f.include_)

/-- What stands in a directory of a project: a file, with its path in the project, or a directory with what stands in it. -/
inductive Entry where
  | file (path : String)
  | directory (name : String) (entries : List Entry)

/-- The path of a name in a directory; none stands above the root's own. -/
def under (above name : String) : String := if above = "" then name else s!"{above}/{name}"

namespace Entry

/-- The entries after a change to those of one of the directories, which is there then. -/
def within (name : String) (change : List Entry → List Entry) : List Entry → List Entry
  | [] => [.directory name (change [])]
  | .directory other entries :: rest =>
    if other = name then .directory name (change entries) :: rest else .directory other entries :: within name change rest
  | .file path :: rest => .file path :: within name change rest

/-- The entries with one more file, in directories that lead to it. -/
def insert (path : String) : List String → List Entry → List Entry
  | [], entries => entries ++ [.file path]
  | [_], entries => entries ++ [.file path]
  | name :: next :: rest, entries => within name (insert path (next :: rest)) entries

/-- What stands in a project with files at some paths. -/
def ofPaths (paths : List String) : List Entry := paths.foldl (fun entries path => insert path (Path.segments path) entries) []

mutual

/-- What a walk finds at an entry; `above` is the path of the directory that it stands in. A backslash in a name is read as a slash, so
there is nothing where a directory with such a name is looked for. -/
def visit (t : Toolchain) (f : Filters) (above : String) : Entry → List String
  | .file path => if isSourceFile t (normalizePath path) && f.passes (normalizePath path) then [normalizePath path] else []
  | .directory name entries =>
    if name.toList.contains '\\' || skipsDirectory f (under above name) name then [] else walk t f (under above name) entries

/-- What a walk finds in a directory. -/
def walk (t : Toolchain) (f : Filters) (above : String) : List Entry → List String
  | [] => []
  | entry :: rest => visit t f above entry ++ walk t f above rest

end

end Entry

/-- The path of a file below a directory. -/
def below? (root path : String) : Option String :=
  let lead := if root = "/" then "/" else root ++ "/"
  if Text.starts path lead then some (String.ofList (path.toList.drop lead.length)) else none

/-- The files of a disk below a directory, each by its path there. -/
def filesBelow (d : Disk) (root : String) : List String := d.files.filterMap fun (path, _) => below? (Disk.key root) path

/-- The sources of a project, by name. -/
def sources (d : Disk) (root : String) (t : Toolchain) (f : Filters) : List String :=
  sortTexts (Entry.walk t f "" (Entry.ofPaths (filesBelow d root)))

/-- The sources of a project with their contents. -/
def documents {η : Type} (root : String) (t : Toolchain) (f : Filters) (concurrency : Number) : Action η (List Document) := do
  let files := sources (← Action.world).disk root t f
  let pool ← runBounded concurrency files fun file _ => do
    let text ← Action.readText (Path.join [root, file])
    return (⟨file, text.toList⟩ : Document)
  return pool.results

end Discovery

/-- Where a project stands, and its toolchain. -/
structure Project where
  root : String
  toolchain : Toolchain
  deriving DecidableEq, Repr, Inhabited

instance : Encode Project := ⟨fun p => .obj [("root", encode p.root), ("toolchain", encode p.toolchain)]⟩

namespace Project

/-- The project at a path, seen from a directory. A toolchain that is not given follows from the project's files. -/
def find {η : Type} (base path : String) (toolchain : Option Toolchain) : Action η Project := do
  let root := Path.resolve base path
  let disk := (← Action.world).disk
  match disk.at? root with
  | some .directory => return ⟨root, toolchain.getD (.detect ((disk.children root).map (·.1)))⟩
  | some (.file _) => Action.fail (.configuration s!"Project path is not a directory: {root}")
  | none =>
    Action.refuseBlocked "stat" root
    Action.fail (.configuration s!"Project path does not exist: {root}")

/-- A directory and those above it, innermost first, so many at most. -/
def upwards : Nat → String → List String
  | 0, path => [path]
  | n + 1, path =>
    let parent := Path.dirname path
    if parent = path then [path] else path :: upwards n parent

/-- The line of a manifest that declares a workspace. -/
def workspaceLine : Pattern := .all [.lineStart, .blanks, .lit "[workspace]"]

/-- The nearest directory at or above a project whose manifest declares a workspace, else the project itself. -/
def workspaceRoot (read : String → Option String) (root : String) : String :=
  let declares (path : String) : Bool :=
    (read (Path.join [path, "Cargo.toml"])).any fun text => workspaceLine.occurs text.toList
  ((upwards root.length root).find? declares).getD root

/-- The workspace of a project on disk. -/
def workspaceOnDisk {η : Type} (root : String) : Action η String := return workspaceRoot (← Action.world).disk.text? root

end Project

end QualityGate
