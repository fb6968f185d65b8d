import QualityGate.Profile
import QualityGate.Source.Block
import QualityGate.Source.Functions
import QualityGate.Violation

/-!
# Test stubs

For every public function of a Rust source that has no test named after it, an ignored test is added, at the end of the file's
test module or in a new one.
-/

namespace QualityGate

open QualityGate.Toolchain

namespace TestStubs

/-- The lint name of a file whose coverage is too low. -/
def missingTestsLint : String := "missing_tests"

/-- A public function at the start of a line of code. -/
def publicFunction : Pattern :=
  .all [.textStart, .blanks, .lit "pub", .opt Functions.parenthesised, .blanks1, .opt (.seq (.lit "const") .blanks1),
    .opt (.seq (.lit "async") .blanks1), .opt (.seq (.lit "unsafe") .blanks1), .lit "fn", .blanks1,
    Functions.nameGroup Functions.identifier]

/-- The opening of the test module. -/
def testModule : Pattern :=
  .all [.lit "#[cfg(test)]", .blanks, .lit "mod", .blanks1, .lit "tests", .blanks, .lit "\x7b"]

/-- The declaration of the test for a function. -/
def testOf (name : String) : Pattern :=
  .all [.wordEdge, .lit "fn", .blanks1, .lit s!"test_{name}", .blanks, .lit "("]

/-- The public function that a line of code declares. -/
def publicName? (code : List Char) : Option String :=
  ((publicFunction.find code).bind (·.group 1)).map String.ofList

/-- An ignored test for a function. -/
def stub (name : String) : List Char :=
  s!"    #[test]\n    #[ignore = \"exercise {name}\"]\n    fn test_{name}() ".toList ++ ['\x7b', '\x7d']

end TestStubs

open TestStubs

/-- The public functions of a Rust source, in order of first appearance. -/
def publicFunctionNames (t : Toolchain) (content : List Char) : List String :=
  if t = rust then distinct ((scan t content).filterMap fun line => publicName? line.code) else []

/-- The public functions that no test is named after. -/
def untestedFunctions (t : Toolchain) (content : List Char) : List String :=
  (publicFunctionNames t content).filter fun name => !(testOf name).occurs content

/-- The place of the brace that closes the test module, with the text before and from it on. -/
def testModuleEnd? (content : List Char) : Option (List Char × List Char) := do
  let found ← testModule.find content
  let stop ← blockEnd? content found.prior.length
  return (content.take (stop - 1), content.drop (stop - 1))

/-- The content with a stub for each untested public function, and the names of those. -/
def appendTestStubs (t : Toolchain) (content : List Char) : List Char × List String :=
  let missing := untestedFunctions t content
  if missing.isEmpty then (content, [])
  else
    let stubs := List.intercalate ['\n', '\n'] (missing.map stub)
    match testModuleEnd? content with
    | some (before, closing) => (trimEnd before ++ ['\n', '\n'] ++ stubs ++ '\n' :: closing, missing)
    | none =>
      let base := if content.isEmpty ∨ content.getLast? = some '\n' then content else content ++ ['\n']
      let opening := "\n#[cfg(test)]\nmod tests \x7b\n    use super::*;\n\n".toList
      (base ++ opening ++ stubs ++ "\n\x7d\n".toList, missing)

/-- The violation of a file whose coverage is below the minimum. -/
def missingTestsViolation (file : String) (coverage : Number) (profile : Profile) : Violation :=
  .atLines file 1 1 missingTestsLint s!"Coverage {coverage.fixed 1}% is below the minimum of {profile.coverageMin}%" .warning
    "Add tests for the public functions"

end QualityGate
