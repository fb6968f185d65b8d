import QualityGate.World

/-!
# Scripted tools

Tools that answer from a list of rules, so that a run can be rehearsed without starting anything. Every call is written down. A
command that no rule is about answers as one that does not exist.
-/

namespace QualityGate

/-- How calls of a command are answered whose arguments start with the given ones. -/
structure ToolRule where
  command : String
  args : List String
  result : CommandResult
  /-- The rule answers a single call. -/
  once : Bool
  /-- The files that the tool writes, below the rehearsal's directory. -/
  writes : List (String × String)
  /-- The milliseconds that the tool takes. -/
  advanceMs : Int
  deriving DecidableEq, Repr, Inhabited

namespace ToolRule

def answers (r : ToolRule) (c : ToolCall) : Bool := r.command = c.command && r.args.isPrefixOf c.args

end ToolRule

/-- The rules that are still in force and the calls that were made. -/
structure Script where
  rules : List ToolRule
  calls : List ToolCall := []
  deriving DecidableEq, Repr, Inhabited

/-- The inner part of a world that holds a script. -/
class Scripted (η : Type) where
  script : η → Script
  withScript : Script → η → η

instance : Scripted Script := ⟨id, fun s _ => s⟩

namespace Script

/-- A command that does not exist. -/
def notFound : CommandResult := ⟨127, "", "not found", false⟩

/-- The first rule for a call, and the rules that stay. -/
def take (c : ToolCall) : List ToolRule → Option ToolRule × List ToolRule
  | [] => (none, [])
  | r :: rest =>
    if r.answers c then (some r, if r.once then rest else r :: rest)
    else
      let (found, kept) := take c rest
      (found, r :: kept)

variable {η : Type} [Scripted η]

def change (f : Script → Script) : Action η Unit :=
  Action.change fun w => { w with inner := Scripted.withScript (f (Scripted.script w.inner)) w.inner }

/-- The tools of a script whose rules write below a directory. -/
def tools (directory : String) : Tools η := fun call => do
  let s := Scripted.script (← Action.world).inner
  let (rule, rules) := take call s.rules
  change fun s => { rules, calls := s.calls ++ [call] }
  match rule with
  | none => return notFound
  | some r =>
    for (path, text) in r.writes do
      Action.writeText (Path.join [directory, path]) text
    Action.change fun w => { w with clock := w.clock + r.advanceMs }
    return r.result

end Script

instance : Encode ToolCall where
  encode c :=
    .present [("command", some (encode c.command)), ("args", some (encode c.args)), ("cwd", c.cwd.map encode),
      ("input", c.input.map encode), ("timeoutMs", c.timeoutMs.map encode)]

instance : Encode CommandResult where
  encode r :=
    .obj [("exitCode", encode r.exitCode), ("stdout", encode r.stdout), ("stderr", encode r.stderr),
      ("timedOut", encode r.timedOut)]

instance : Decode CommandResult where
  decode? j := do
    return ⟨j.fieldD "exitCode" 0, j.fieldD "stdout" "", j.fieldD "stderr" "", j.fieldD "timedOut" false⟩

instance : Decode ToolRule where
  decode? j := do
    return { command := j.fieldD "command" "", args := j.fieldD "args" [],
             result := (decode? j).getD default,
             once := j.fieldD "once" false, writes := ((j.get? "writes").bind Json.decodeRecord?).getD [],
             advanceMs := j.fieldD "advanceMs" 0 }

end QualityGate
