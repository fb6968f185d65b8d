import QualityGate.Json
import QualityGate.Text.Path

/-!
# Where a run works

The project directory and the cache directory, worked out once from what the user gives.
-/

namespace QualityGate

/-- The directories of a run. -/
structure Context where
  cwd : String
  cacheDir : String
  deriving DecidableEq, Repr, Inhabited

namespace Context

/-- The name of the cache directory in a project that names none. -/
def defaultCacheName : String := ".refactor-gate"

/-- The directories for a project path and perhaps a cache path, seen from a directory. -/
def of (base projectPath : String) (cacheDir : Option String) : Context :=
  let cwd := Path.resolve base projectPath
  match cacheDir with
  | none | some "" => ⟨cwd, Path.join [cwd, defaultCacheName]⟩
  | some given => ⟨cwd, Path.resolve base given⟩

instance : Encode Context := ⟨fun c => .obj [("cwd", encode c.cwd), ("cacheDir", encode c.cacheDir)]⟩

end Context

end QualityGate
