import QualityGate.CommandLine.Program
import QualityGate.World.Shell
import Std.Time.DateTime.Timestamp

/-!
# The program on a machine

The command line in the directory that it is started in. What stands below the directory is read into a world, the program runs in
that world, and what it printed and changed there is then printed and written on the machine.
-/

namespace QualityGate.Machine

/-- How deep below its directory the program looks for files. -/
def depth : Nat := 64

/-- The disk with what stands in a directory and below it; what cannot be read as text is left out. -/
def readEntries : Nat → Disk → Array IO.FS.DirEntry → IO Disk
  | 0, d, _ => return d
  | depth + 1, d, entries =>
    entries.foldlM (fun d e => do
      let path := e.path.toString
      if ← e.path.isDir then readEntries depth (d.put path .directory) (← e.path.readDir)
      else
        try return d.put path (.file (← IO.FS.readFile e.path))
        catch _ => return d) d

/-- Brings a file of the machine to its state in the world. -/
def bring (path : String) : Option String → IO Unit
  | some text => do
    IO.FS.createDirAll (Path.dirname path)
    IO.FS.writeFile path text
  | none => IO.FS.removeFile path

/-- The variables of the environment that are settings. -/
def environment : IO (Record Json) := do
  let names := ["NODE_ENV", "LOG_LEVEL", "WEB_PORT", "WEB_HOST", "REFACTOR_CACHE_DIR", "COVERAGE_TIMEOUT_MS", "LOCK_STALE_MS",
    "ANALYSIS_CONCURRENCY", "GITHUB_TOKEN", "REWRITE_TEMPLATES_PATH", "REFACTOR_AGENT_COMMAND", "REFACTOR_CI"]
  names.filterMapM fun name => return (← IO.getEnv name).map fun value => (name, .str value)

/-- All lines of a stream. -/
partial def linesOf (input : IO.FS.Stream) (before : List String) : IO (List String) := do
  let line ← input.getLine
  if line.isEmpty then return before else linesOf input (before ++ [String.ofList (line.toList.filter (· ≠ '\n'))])

/-- A tracker that nothing is known of. -/
def noTracker {η : Type} : IssueTracker η := fun _ => Action.fail (.other "The issue tracker cannot be reached")

def printAll (printed : List (Stream × String)) : IO Unit := do
  for (stream, text) in printed do
    match stream with
    | .out => IO.print text
    | .err => IO.eprint text

/-- Runs the program; a failure that is not the user's ends it with 2. -/
def start (args : List String) : IO UInt32 := do
  let directory ← IO.currentDir
  let cwd := directory.toString
  let disk ← readEntries depth (Disk.ensureDirectory [] cwd) (← directory.readDir)
  let clock := (← Std.Time.Timestamp.now).toMillisecondsSinceUnixEpoch.val
  let input ← if args.head? = some "mcp" then linesOf (← IO.getStdin) [] else pure []
  let program : Program Unit :=
    { environment := ← environment, cwd, input, processors := 4, tools := Shell.tools, tracker := noTracker }
  let (result, after) := (program.run args).run { disk, clock, inner := () }
  printAll after.printed
  for (path, text) in Disk.changes disk after.disk do
    bring path text
  match result with
  | .ok code => return code.toUInt32
  | .error failure =>
    IO.eprintln failure.message
    return 2

end QualityGate.Machine

def main (args : List String) : IO UInt32 := QualityGate.Machine.start args
