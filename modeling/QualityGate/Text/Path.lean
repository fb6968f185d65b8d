import QualityGate.Text.Search

/-!
# File paths

Paths with forward slashes. `normalizePath` turns backslashes and drops one leading `./`; the other functions join, resolve and
take apart paths by their segments.
-/

namespace QualityGate

namespace Path

/-- Forward slashes for backslashes, and no leading `./`. -/
def normalChars (path : List Char) : List Char :=
  match path.map fun c => if c = '\\' then '/' else c with
  | '.' :: '/' :: rest => rest
  | other => other

/-- The segments between slashes. -/
def segments (path : String) : List String := Text.split path "/"

/-- One more segment on a stack of resolved ones, latest first. A parent step that has nothing to undo is kept when
`keepAbove` says so. -/
def pushSegment (keepAbove : Bool) (stack : List String) (segment : String) : List String :=
  if segment = "" ∨ segment = "." then stack
  else if segment = ".." then
    match stack with
    | [] => if keepAbove then [".."] else []
    | top :: rest => if top = ".." then ".." :: stack else rest
  else segment :: stack

/-- The segments with the empty ones, `.` and `..` worked out. -/
def resolveSegments (keepAbove : Bool) (parts : List String) : List String :=
  (parts.foldl (pushSegment keepAbove) []).reverse

def isAbsolute (path : String) : Bool := Text.starts path "/"

/-- The path with its steps worked out; a trailing slash stays and an empty path is the current directory. -/
def clean (path : String) : String :=
  if path = "" then "."
  else
    let absolute := isAbsolute path
    let body := Text.join "/" (resolveSegments (!absolute) (segments path))
    let slash := if Text.ends path "/" then "/" else ""
    if body = "" then
      if absolute then "/" else if slash = "/" then "./" else "."
    else (if absolute then "/" else "") ++ body ++ slash

/-- Paths joined by slashes and cleaned; empty ones do not count. -/
def join (parts : List String) : String :=
  let given := parts.filter (· ≠ "")
  if given.isEmpty then "." else clean (Text.join "/" given)

/-- The absolute path that a path stands for, seen from a directory. -/
def resolve (directory path : String) : String :=
  let full := if isAbsolute path then path else directory ++ "/" ++ path
  "/" ++ Text.join "/" (resolveSegments false (segments full))

/-- The text without its trailing slashes, but for a single leading one. -/
def dropTrailingSlashes (path : String) : String :=
  let kept := (path.toList.reverse.dropWhile (· = '/')).reverse
  if kept.isEmpty ∧ path ≠ "" then "/" else String.ofList kept

/-- The directory that holds a path. -/
def dirname (path : String) : String :=
  let body := (dropTrailingSlashes path).toList
  match lastIndexOf? '/' body with
  | none => "."
  | some 0 => "/"
  | some 1 => if body.head? = some '/' then "//" else String.ofList (body.take 1)
  | some i => String.ofList (body.take i)

/-- The last segment of a path. -/
def basename (path : String) : String :=
  let body := (dropTrailingSlashes path).toList
  match lastIndexOf? '/' body with
  | none => String.ofList body
  | some i => String.ofList (body.drop (i + 1))

/-- The last point of the last segment and what follows it; none when only points or nothing stand before it. -/
def extname (path : String) : String :=
  let base := (basename path).toList
  match lastIndexOf? '.' base with
  | none => ""
  | some i => if i = 0 ∨ base = ['.', '.'] then "" else String.ofList (base.drop i)

/-- The common leading segments of two lists taken away. -/
def dropCommon : List String → List String → List String × List String
  | a :: as, b :: bs => if a = b then dropCommon as bs else (a :: as, b :: bs)
  | as, bs => (as, bs)

/-- The way from one absolute path to another. -/
def relative (source target : String) : String :=
  let (up, down) := dropCommon (resolveSegments false (segments source)) (resolveSegments false (segments target))
  Text.join "/" (up.map (fun _ => "..") ++ down)

end Path

/-- Forward slashes for backslashes, and no leading `./`. -/
def normalizePath (path : String) : String := String.ofList (Path.normalChars path.toList)

end QualityGate
