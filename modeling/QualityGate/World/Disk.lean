import QualityGate.Text.Path
import QualityGate.Text.Units

/-!
# Disks

What stands at each path: a text file or a directory. Paths are absolute and worked out; the root directory is always there.
-/

namespace QualityGate

/-- What stands at a path. -/
inductive DiskEntry where
  | file (text : String)
  | directory
  deriving DecidableEq, Repr, Inhabited

/-- The entries of a disk by path. -/
abbrev Disk := List (String × DiskEntry)

namespace Disk

/-- The path as a disk knows it; a relative one stands below no directory. -/
def key (path : String) : String := if Path.isAbsolute path then Path.resolve "/" path else path

def at? (d : Disk) (path : String) : Option DiskEntry :=
  if key path = "/" then some .directory else d.lookup (key path)

/-- The text of a file. -/
def text? (d : Disk) (path : String) : Option String :=
  match d.at? path with
  | some (.file text) => some text
  | _ => none

def isDirectory (d : Disk) (path : String) : Bool := d.at? path == some .directory

/-- The disk with an entry at a path. -/
def put (d : Disk) (path : String) (e : DiskEntry) : Disk :=
  if (d.lookup (key path)).isSome then d.map fun (p, old) => if p = key path then (p, e) else (p, old)
  else d ++ [(key path, e)]

/-- The disk with nothing at a path. -/
def drop (d : Disk) (path : String) : Disk := d.filter fun (p, _) => p ≠ key path

/-- The directories above a path of some segments, outermost first. -/
def above : List String → String → List String
  | [], _ => []
  | [_], _ => []
  | segment :: rest, base => (base ++ "/" ++ segment) :: above rest (base ++ "/" ++ segment)

/-- The directories above a path, outermost first. -/
def parents (path : String) : List String := above ((Path.segments (key path)).filter (· ≠ "")) ""

/-- Why a path leads nowhere, other than that there is nothing at it. -/
inductive Obstacle where
  /-- A file stands where a directory would have to be. -/
  | file
  /-- A name, or the path as a whole, is longer than names and paths can be. -/
  | length
  deriving DecidableEq, Repr, Inhabited

/-- The most bytes of a name. -/
def nameLimit : Nat := 255

/-- The most bytes of a path. -/
def pathLimit : Nat := 4095

/-- The first obstacle on the way from a directory through some names; it ends where there is nothing. -/
def obstacleBelow? (d : Disk) (directory : String) : List String → Option Obstacle
  | [] => none
  | name :: rest =>
    let path := directory ++ "/" ++ name
    if nameLimit < name.utf8ByteSize then some .length
    else if (d.text? path).isSome then if rest.isEmpty then none else some .file
    else if d.isDirectory path then obstacleBelow? d path rest
    else none

/-- What stands in the way to a path. -/
def obstacle? (d : Disk) (path : String) : Option Obstacle :=
  if pathLimit < path.utf8ByteSize then some .length
  else obstacleBelow? d "" ((Path.segments (key path)).filter (· ≠ ""))

def ensureDirectory (d : Disk) (path : String) : Disk :=
  (parents path ++ [key path]).foldl (fun d p => if (d.at? p).isSome then d else d.put p .directory) d

/-- The disk with a file at a path, in directories that are made when they are missing. -/
def write (d : Disk) (path text : String) : Disk :=
  ((parents path).foldl (fun d p => if (d.at? p).isSome then d else d.put p .directory) d).put path (.file text)

/-- The disk without a directory and all below it. -/
def dropTree (d : Disk) (path : String) : Disk :=
  d.filter fun (p, _) => p ≠ key path ∧ ¬ Text.starts p (key path ++ "/")

/-- The file of one path at another one, in place of what stood there. -/
def move (d : Disk) (source target : String) : Disk :=
  match d.text? source with
  | some text => (d.drop source).put target (.file text)
  | none => d

/-- A path's name in a directory, when it stands directly in it. -/
def nameIn? (directory path : String) : Option String :=
  let lead := if directory = "/" then "/" else directory ++ "/"
  if Text.starts path lead then
    let name := path.toList.drop lead.toList.length
    if name.isEmpty ∨ name.contains '/' then none else some (String.ofList name)
  else none

/-- What stands directly in a directory, names in order of their characters. -/
def children (d : Disk) (directory : String) : List (String × DiskEntry) :=
  let found := d.filterMap fun (p, e) => (nameIn? (key directory) p).map (·, e)
  found.mergeSort fun a b => a.1 ≤ b.1

/-- The files of a disk. -/
def files (d : Disk) : List (String × String) :=
  d.filterMap fun (p, e) =>
    match e with
    | .file text => some (p, text)
    | .directory => none

/-- The files that differ between two disks: the new text of each, or none when it is gone. -/
def changes (before after : Disk) : List (String × Option String) :=
  (after.files.filter fun (p, text) => before.text? p ≠ some text).map (fun (p, text) => (p, some text)) ++
    (before.files.filter fun (p, _) => (after.text? p).isNone).map fun (p, _) => (p, none)

end Disk

end QualityGate
