import QualityGate.Json

/-!
# Toolchains

The languages whose sources are analysed, with the file extensions of each and the project files that tell them apart.
-/

namespace QualityGate

/-- The toolchain of a project. -/
inductive Toolchain where
  | rust
  | deno
  | pythonUv
  | go
  deriving DecidableEq, Repr, Inhabited

namespace Toolchain

/-- All toolchains, in the order in which they are listed. -/
def all : List Toolchain := [rust, deno, pythonUv, go]

/-- The name a user gives. -/
def name : Toolchain → String
  | rust => "rust"
  | deno => "deno"
  | pythonUv => "python-uv"
  | go => "go"

/-- The toolchain of a name. -/
def ofName? (text : String) : Option Toolchain := all.find? fun t => t.name = text

instance : Encode Toolchain := ⟨fun t => .str t.name⟩
instance : Decode Toolchain := ⟨fun j => j.str?.bind ofName?⟩

/-- The extensions of source files, without the point. -/
def extensions : Toolchain → List String
  | rust => ["rs"]
  | deno => ["ts", "tsx", "js", "jsx"]
  | pythonUv => ["py"]
  | go => ["go"]

/-- The project files that show which toolchain a project uses, most telling first. -/
def projectFiles : List (String × Toolchain) :=
  [("Cargo.toml", rust), ("deno.json", deno), ("deno.jsonc", deno), ("package.json", deno), ("tsconfig.json", deno),
   ("pyproject.toml", pythonUv), ("setup.py", pythonUv), ("go.mod", go)]

/-- The toolchain of a project whose root directory holds the given names. -/
def detect (names : List String) : Toolchain :=
  ((projectFiles.find? fun (file, _) => names.contains file).map (·.2)).getD rust

end Toolchain

end QualityGate
