import QualityGate.CommandLine.Words
import QualityGate.Json.Parser
import QualityGate.Refactor.Request
import QualityGate.Schema
import QualityGate.Text.Case
import QualityGate.Text.Pattern
import QualityGate.World

/-!
# Rewrite agents

An agent answers a request with a source text and perhaps a text of tests. An agent that is a command gets the request on its input
and answers with a JSON object or with fenced blocks: the first one is the source, one that is said to be a test holds the tests.
-/

namespace QualityGate

/-- What an agent answers. -/
structure AgentAnswer where
  sourceCode : String
  testCode : Option String
  deriving DecidableEq, Repr, Inhabited

instance : Encode AgentAnswer := ⟨fun a => .obj [("sourceCode", encode a.sourceCode), ("testCode", encode a.testCode)]⟩

instance : Decode AgentAnswer where
  decode? j := do return { sourceCode := j.fieldD "sourceCode" "", testCode := j.fieldD "testCode" none }

/-- Who answers requests. -/
abbrev RewriteAgent (η : Type) := RewriteRequest → Action η AgentAnswer

namespace AgentAnswer

def check : Check AgentAnswer := Check.object fun a =>
  AgentAnswer.mk <$> Check.field a "source_code" Check.text <*> Check.field a "test_code" (Check.nullish Check.text)

/-- The answer in an output that is a JSON object. -/
def ofObject? (output : List Char) : Option AgentAnswer :=
  let text := trim output
  if text.head? = some '\x7b' then (Json.ofText? (String.ofList text)).bind fun j => (check (some j)).accepted? else none

/-- What opens and closes a fenced block at the start of a line. -/
def fence : String := "\x60\x60\x60"

/-- A fenced block; group 1 is what its first line says, group 2 its text. -/
def fencedBlock : Pattern :=
  .all [.lineStart, .lit fence, .group 1 (.many (.butNot '\n')), .one (· = '\n'),
    .group 2 (.times true 0 none (.one fun _ => true)), .lineStart, .lit fence]

/-- The fenced blocks of a text, each with what its first line says. -/
def blocks (output : List Char) : List (List Char × List Char) :=
  (fencedBlock.findAll output).map fun m => ((m.group 1).getD [], (m.group 2).getD [])

/-- Whether a block is said to hold tests. -/
def isTest (info : List Char) : Bool := contains (lowered info) "test".toList

/-- The source and the tests so far, with one more block. -/
def addBlock (found : Option (List Char) × Option (List Char)) (block : List Char × List Char) :
    Option (List Char) × Option (List Char) :=
  let (source, tests) := found
  if isTest block.1 ∧ tests.isNone then (source, some block.2)
  else if source.isNone then (some block.2, tests)
  else found

/-- The answer in an output with fenced blocks. -/
def ofBlocks? (output : List Char) : Option AgentAnswer :=
  let (source, tests) := (blocks output).foldl addBlock (none, none)
  source.map fun s => ⟨String.ofList s, tests.map String.ofList⟩

/-- The answer in the output of a command. -/
def ofOutput? (output : String) : Option AgentAnswer := ofObject? output.toList <|> ofBlocks? output.toList

end AgentAnswer

/-- The agent that a command is. -/
def commandAgent {η : Type} (tools : Tools η) (cwd command : String) : Except Failure (RewriteAgent η) := do
  match ← Words.split command with
  | [] | "" :: _ => throw (.configuration "Agent command is empty")
  | name :: args =>
    return fun request => do
      let result ← tools { command := name, args, cwd := some cwd, input := some request.serialize }
      let result ← Action.ofExcept (result.ensureSuccess name args)
      match AgentAnswer.ofOutput? result.stdout with
      | some answer => return answer
      | none => Action.fail (.unreadableAnswer (describeCommand name args))

end QualityGate
