import QualityGate.Source.Functions
import QualityGate.Text.Path

/-!
# What a test depends on

The source files that a test file may be about, read off its imports and quoted paths. The answer lists candidates; whether they
exist is for the caller to see.
-/

namespace QualityGate

open QualityGate.Toolchain

namespace TestDependencies

/-- The crates that are never part of a project. -/
def externalCrates : List String := ["std", "core", "alloc"]

/-- The extensions that a module without one may have. -/
def moduleExtensions : List String := [".ts", ".tsx", ".js", ".jsx"]

/-- A path below `src` between quotes of any kind. -/
def quotedSource : Pattern :=
  let quote : Pattern := .one fun c => c = '"' || c = '\''
  .all [quote,
    .group 1 (.all [.lit "src/", .many1 (.one fun c => isWordChar c || c = '-' || c = '.' || c = '/'), .lit ".",
      .words ["rs", "ts", "js", "py"]]), quote]

/-- A `use` with its path of names. -/
def useDeclaration : Pattern :=
  .all [.lineStart, .blanks, .opt (.seq (.lit "pub") .blanks1), .lit "use", .blanks1,
    .group 1 (.seq Functions.identifier (.many (.seq (.lit "::") Functions.identifier)))]

/-- An import from a relative path. -/
def relativeImport : Pattern :=
  let quote : Pattern := .one fun c => c = '"' || c = '\''
  .all [.wordEdge, .lit "from", .blanks1, quote,
    .group 1 (.all [.times false 1 (some 2) (.lit "."), .lit "/", .many1 (.one fun c => c ≠ '"' && c ≠ '\'')]), quote]

/-- An import of a dotted module. -/
def dottedImport : Pattern :=
  let dotted : Pattern := .many1 (.one fun c => isWordChar c || c = '.')
  .all [.lineStart, .blanks,
    .alt (.all [.lit "from", .blanks1, .group 1 dotted, .blanks1, .lit "import"])
      (.all [.lit "import", .blanks1, .group 2 dotted])]

/-- What a group matched, as text. -/
def groupText (m : Pattern.Found) (index : Nat) : Option String := (m.group index).map String.ofList

/-- The files that the path of a `use` may name, seen from the directory of the test: each leading part as a module of its own. -/
def moduleFiles (testDirectory path : String) : List String :=
  match Text.split path "::" with
  | [] => []
  | head :: rest =>
    if externalCrates.contains head then []
    else
      let base := if head = "self" then testDirectory else if head = "super" then Path.dirname testDirectory else "src"
      (List.range rest.length).flatMap fun dropped =>
        let module := Text.join "/" (rest.take (rest.length - dropped))
        [Path.join [base, module ++ ".rs"], Path.join [base, module, "mod.rs"]]

/-- The files that a relative import may name. -/
def importFiles (testDirectory path : String) : List String :=
  let resolved := Path.join [testDirectory, path]
  let extension := Path.extname resolved
  if moduleExtensions.contains extension then
    let stem := String.ofList (resolved.toList.take (resolved.length - 3))
    resolved :: (if extension = ".js" then [stem ++ ".ts"] else [])
  else moduleExtensions.map (resolved ++ ·) ++ [Path.join [resolved, "index.ts"]]

/-- The files that a dotted module may stand for. -/
def dottedFiles (dotted : String) : List String :=
  if dotted = "" ∨ Text.starts dotted "." then []
  else
    let path := Text.join "/" (Text.split dotted ".")
    [path ++ ".py", "src/" ++ path ++ ".py", path ++ "/__init__.py"]

/-- The candidates that the imports of a test name. -/
def importCandidates (t : Toolchain) (testFile : String) (content : List Char) : List String :=
  let directory := Path.dirname (normalizePath testFile)
  match t with
  | rust => (useDeclaration.findAll content).flatMap fun m => moduleFiles directory ((groupText m 1).getD "")
  | deno => (relativeImport.findAll content).flatMap fun m => importFiles directory ((groupText m 1).getD "")
  | pythonUv =>
    (dottedImport.findAll content).flatMap fun m => dottedFiles ((groupText m 1 <|> groupText m 2).getD "")
  | go => []

end TestDependencies

open TestDependencies in
/-- The files that a test may depend on, sorted, without the test itself. -/
def testDependencyCandidates (t : Toolchain) (testFile : String) (content : List Char) : List String :=
  let quoted := (quotedSource.findAll content).filterMap fun m => groupText m 1
  let all := distinct ((importCandidates t testFile content ++ quoted).map normalizePath)
  sortTexts (all.filter (· ≠ normalizePath testFile))

end QualityGate
