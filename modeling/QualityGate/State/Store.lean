import QualityGate.Json.KeyCase
import QualityGate.Json.Parser
import QualityGate.Json.Printer
import QualityGate.State
import QualityGate.World

/-!
# The state file

The state is kept in `refactor-state.json` in the cache directory, with keys in snake case, and replaced whole. A file that cannot be
read as a state is as good as none, but is warned about.
-/

namespace QualityGate.StateStore

def fileName : String := "refactor-state.json"

def path (cacheDir : String) : String := Path.join [cacheDir, fileName]

/-- The text of the state file for a state in JSON. -/
def textOf (state : Json) : String := (KeyCase.snakeKeys [] state).pretty ++ "\n"

/-- What a state file says: a state, or what is wrong with the file. -/
inductive Reading where
  | state (s : RefactorState)
  | malformed
  | unexpected (faults : List Fault)
  deriving Inhabited

/-- Reads the text of a state file. -/
def read (text : String) : Reading :=
  match Json.ofText? text with
  | none => .malformed
  | some j =>
    let checked := RefactorState.check (some (KeyCase.camelFields j))
    match checked.accepted? with
    | some s => .state s
    | none => .unexpected checked.faults

variable {η : Type}

/-- The saved state; none when there is no usable one. -/
def load (cacheDir : String) : Action η (Option RefactorState) := do
  let file := path cacheDir
  match ← Action.readText? file with
  | none => return none
  | some text =>
    match read text with
    | .state s => return some s
    | .malformed =>
      Action.log .warn "state file is not valid JSON; starting fresh" [("statePath", .str file)]
      return none
    | .unexpected faults =>
      Action.log .warn "state file does not match the expected shape; starting fresh"
        [("statePath", .str file), ("issues", .strings (faults.map (·.message)))]
      return none

def save (cacheDir : String) (s : RefactorState) : Action η Unit := Action.writeText (path cacheDir) (textOf (encode s))

end QualityGate.StateStore
