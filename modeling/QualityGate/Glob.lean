import QualityGate.Text.Case
import QualityGate.Text.Path
import QualityGate.Text.Pattern
import QualityGate.Toolchain

/-!
# File patterns and filters

A pattern with stars matches a path from some segment on: `**/` stands for nothing or for any text that ends in a slash, any other
`**` for any text, and `*` for any text without a slash. A pattern without stars matches every path that contains it. Filters
include and exclude paths by such patterns; vendored files are left out unless a pattern includes them.
-/

namespace QualityGate

/-- The patterns that select files: with none to include, all files are. -/
structure Filters where
  include_ : List String
  exclude : List String
  deriving DecidableEq, Repr, Inhabited

instance : Encode Filters where
  encode f := .obj [("include", encode f.include_), ("exclude", encode f.exclude)]

instance : Decode Filters where
  decode? j := do
    return { include_ := j.fieldD "include" [], exclude := j.fieldD "exclude" [] }

namespace Glob

/-- Tries a continuation on a text and on what is left of it after each further character that passes a test. -/
def spread (test : Char → Bool) (next : List Char → Bool) : List Char → Bool
  | [] => next []
  | c :: rest => next (c :: rest) || (test c && spread test next rest)

/-- Whether a continuation accepts what follows some slash of a text, with no line end before it. -/
def afterSlash (next : List Char → Bool) : List Char → Bool
  | [] => false
  | c :: rest => (c = '/' && next rest) || (!isLineEnd c && afterSlash next rest)

/-- Whether a text is what a pattern with stars describes. -/
def accepts : List Char → List Char → Bool
  | [], text => text.isEmpty
  | '*' :: '*' :: '/' :: rest, text => accepts rest text || afterSlash (accepts rest) text
  | '*' :: '*' :: rest, text => spread (fun c => !isLineEnd c) (accepts rest) text
  | '*' :: rest, text => spread (· ≠ '/') (accepts rest) text
  | p :: rest, text =>
    match text with
    | c :: others => c = p && accepts rest others
    | [] => false

/-- Whether a pattern with stars describes the path from its start or from some slash on. -/
def acceptsFrom (pattern path : List Char) : Bool := accepts pattern path || starts path
where
  /-- The suffixes right after a slash. -/
  starts : List Char → Bool
    | [] => false
    | c :: rest => (c = '/' && accepts pattern rest) || starts rest

end Glob

/-- Whether a path matches a pattern. -/
def matchesPattern (path pattern : String) : Bool :=
  let target := Path.normalChars path.toList
  let wanted := Path.normalChars (trim pattern.toList)
  if wanted.isEmpty then false
  else if wanted.contains '*' then Glob.acceptsFrom wanted target
  else contains target wanted

def matchesAny (path : String) (patterns : List String) : Bool := patterns.any (matchesPattern path)

/-- The directories whose files are not the project's own. -/
def vendorDirectories : List String := ["target", "node_modules", ".git", "vendor", "dist", "build"]

/-- The files that are not the project's own. -/
def vendorPatterns : List String := ["**/*.min.*", "**/*.wasm"]

/-- What is excluded when nothing is included by name. -/
def defaultExcludes : List String := ["tests/**", "benches/**", "**/test_*.rs", "**/*_test.rs", "**/fixtures/**"]

/-- Whether a file is not the project's own. -/
def isVendorPath (path : String) : Bool :=
  let target := '/' :: Path.normalChars path.toList
  vendorDirectories.any (fun d => contains target ('/' :: d.toList ++ ['/'])) || matchesAny path vendorPatterns

/-- The extension after the last point of a path, in small letters. -/
def extension? (path : List Char) : Option (List Char) :=
  (lastIndexOf? '.' path).map fun i => lowered (path.drop (i + 1))

/-- Whether a path names a source file of a toolchain. -/
def isSourceFile (t : Toolchain) (path : String) : Bool :=
  (extension? path.toList).any fun e => t.extensions.contains (String.ofList e)

/-- The patterns of an ignore file: its lines without comments and empty ones. -/
def parseIgnoreFile (content : String) : List String :=
  ((splitLines content.toList).map trim).filterMap fun line =>
    if line.isEmpty ∨ line.head? = some '#' then none else some (String.ofList line)

namespace Filters

/-- The patterns that leave files out. -/
def excludes (f : Filters) : List String := if f.include_.isEmpty then defaultExcludes ++ f.exclude else f.exclude

/-- Whether a file is selected. A file that is included by name may be vendored. -/
def passes (f : Filters) (path : String) : Bool :=
  let included := !f.include_.isEmpty && matchesAny path f.include_
  if !f.include_.isEmpty && !included then false
  else if !included && isVendorPath path then false
  else !matchesAny path f.excludes

end Filters

/-- Lower-case letters, at least one, up to the end of a text. -/
def isExtension (text : List Char) : Bool := !text.isEmpty && text.all fun c => 'a' ≤ c && c ≤ 'z'

/-- Whether a file name ends in `_test`, or `.test` or `.spec`, and an extension. -/
def isTestName (base : List Char) : Bool :=
  match lastIndexOf? '.' base with
  | none => false
  | some i =>
    let stem := base.take i
    isExtension (base.drop (i + 1)) &&
      ["_test", ".test", ".spec"].any fun tail => tail.toList.isSuffixOf stem

/-- Whether a file is one that is never chosen for the sake of coverage, complexity or debt: tests, entry points, build scripts,
examples and generated code. -/
def isNonRefactorable (path : String) : Bool :=
  let target := '/' :: Path.normalChars path.toList
  let base := target.drop (((lastIndexOf? '/' target).map (· + 1)).getD 0)
  "test_".toList.isPrefixOf base || isTestName base ||
    ["build.rs", "mod.rs", "main.rs"].contains (String.ofList base) ||
    ["/tests/", "/benches/", "/bench/", "/fuzz/", "/examples/"].any (fun d => contains target d.toList) ||
    contains target "generated".toList

end QualityGate
