import QualityGate.Protocol.ToolServer
import QualityGate.Refactor.Command

/-!
# The command line

The commands of the program. A fault of the command line prints the usage and ends with 1; one of the configuration, or a lock that
another process holds, ends with 2.
-/

namespace QualityGate

/-- What the program is started with. -/
structure Program (η : Type) where
  environment : Record Json
  cwd : String
  input : List String
  processors : Nat
  tools : Tools η
  tracker : IssueTracker η

namespace Program

def usage : String :=
  "Usage: refactor-gate <command> [options]\n\nCommands:\n" ++
    "  analyze <kind>   Run one analyzer (complexity, satd, dead-code, churn, tdg,\n" ++
    "                   deep-context, lint-hotspot, compilation-errors, coverage)\n" ++
    "  context          Deep context as Markdown (analyze deep-context)\n" ++
    "  list, templates  List configured rewrite templates\n" ++
    "  refactor auto    Run the quality-gate refactor loop\n" ++
    "  serve            Start the HTTP server\n" ++
    "  mcp              Serve JSON-RPC over stdio\n"

/-- The options of analyses. -/
def analyzeOptions : OptionTable :=
  [("project-path", .value), ("format", .value), ("output", .value), ("include", .values), ("exclude", .values),
    ("toolchain", .value), ("threshold", .value), ("days", .value), ("file", .value)]

def serveOptions : OptionTable := [("port", .value), ("host", .value)]

/-- The program as its clients see it. -/
def serverInfo : ServerInfo := ⟨"refactor-gate", "0.1.0"⟩

/-- A text that ends its last line. -/
def withLineEnd (text : String) : String := if text = "" ∨ Text.ends text "\n" then text else text ++ "\n"

variable {η : Type}

/-- All analyses, seen from the program's directory. -/
def router (p : Program η) (s : Settings) : Router η :=
  Analyzer.router
    { tools := p.tools, context := Context.of p.cwd "." s.cacheDir, concurrency := s.concurrency,
      coverageTimeoutMs := s.coverageTimeoutMs.toInt?.getD 0, coverageLock := some s.lockStaleMs,
      templatesPath := s.templatesPath }

/-- The request that a command line makes; a fault of it is one of usage. -/
def requestOf (i : Invocation) : Except Failure Request :=
  match i.toRequest with
  | .error (.protocol _ message _) => .error (.usage message)
  | other => other

/-- Runs an analysis, and prints the report or writes it to a file. -/
def analyze (p : Program η) (s : Settings) (command args : List String) (defaults : Record Json) : Action η Nat := do
  let values ← Action.ofExcept (Options.read analyzeOptions args)
  let given := (values.filter fun (name, _) => name ≠ "output").map fun (name, v) => (name, encode v)
  let flags := Record.ofPairs (("project-path", .str ".") :: defaults ++ given)
  let request ← Action.ofExcept (requestOf ⟨command, args, flags⟩)
  let printout := (← (p.router s).handle request).toPrintout
  if printout.exitCode ≠ 0 then
    Action.print .err (withLineEnd printout.stderr)
    return printout.exitCode
  match values.get? "output" with
  | none | some (.text "") => Action.print .out (withLineEnd printout.stdout)
  | some output =>
    let file := match output with
      | .text name => Path.resolve p.cwd name
      | _ => p.cwd
    Action.writeText file (withLineEnd printout.stdout)
    Action.log .info "report written" [("output", .str file)]
  return 0

/-- The port in an option, or the one that is set. -/
def portOf (s : Settings) (values : Record Options.Value) : Except Failure Number :=
  let (port, shown) := match values.get? "port" with
    | some (.text text) => (Number.ofText text, text)
    | _ => (s.webPort, "")
  if port.toInt?.any (0 < ·) then .ok port else .error (.configuration s!"Invalid --port: {shown}")

/-- Starts to serve; who serves is the world's matter. -/
def serve (s : Settings) (args : List String) : Action η Nat := do
  let values ← Action.ofExcept (Options.read serveOptions args)
  let port ← Action.ofExcept (portOf s values)
  let host := match values.get? "host" with
    | some (.text text) => text
    | _ => s.webHost
  Action.log .info "serving" [("port", encode port), ("host", .str host)]
  return 0

/-- Runs the refactor command. -/
def refactor (p : Program η) (s : Settings) : List String → Action η Nat
  | "auto" :: args => do
    let values ← Action.ofExcept (Options.read RefactorFlags.options args)
    let flags ← Action.ofExcept (RefactorFlags.ofValues (.obj (values.map fun (name, v) => (name, encode v))))
    RefactorCommand.run ⟨flags, s, p.cwd, p.tools, p.tracker⟩
  | other =>
    let given := other.headD "(none)"
    Action.fail (.usage s!"Unknown refactor command: {given}")

/-- Answers the calls on the input, one line each. -/
def serveTools (p : Program η) (s : Settings) : Action η Nat := do
  let router := p.router s
  for line in p.input do
    match ← ToolServer.answerLine router line with
    | some reply => Action.print .out (reply.compact ++ "\n")
    | none => pure ()
  return 0

/-- Runs a command; the result is the exit code. -/
def dispatch (p : Program η) : List String → Action η Nat
  | [] | "" :: _ | "help" :: _ | "--help" :: _ | "-h" :: _ => do
    Action.print .out usage
    return 0
  | command :: rest => do
    let s ← Action.ofExcept (Settings.ofEnvironment p.processors p.environment)
    match command, rest with
    | "analyze", kind :: args =>
      if kind = "" ∨ Text.starts kind "-" then Action.fail (.usage "analyze needs an analyzer kind")
      p.analyze s ["analyze", kind] args []
    | "analyze", [] => Action.fail (.usage "analyze needs an analyzer kind")
    | "context", args => p.analyze s ["analyze", "deep-context"] args [("format", .str "markdown")]
    | "list", args | "templates", args => p.analyze s [command] args []
    | "refactor", args => p.refactor s args
    | "serve", args => serve s args
    | "mcp", _ => p.serveTools s
    | _, _ => Action.fail (.usage s!"Unknown command: {command}")

/-- Runs the program; faults of the user's are printed, all others are left to the caller. -/
def run (p : Program η) (args : List String) : Action η Nat := do
  try p.dispatch args
  catch
    | .usage message => do
      Action.print .err s!"error: {message}\n\n{usage}"
      return 1
    | failure@(.configuration _) | failure@(.lockHeld ..) => do
      Action.print .err s!"error: {failure.message}\n"
      return 2
    | failure => throw failure

end Program

end QualityGate
