import QualityGate.Number.Reading
import QualityGate.World
import QualityGate.World.Shell.Line

/-!
# The commands that a world runs by itself

A handful of commands that need nothing but the disk, and a shell that runs lines of them. They are tools like any other: whatever
they are asked for, there is a result, and a command that is not among them does not exist.
-/

namespace QualityGate.Shell

/-- What a line of commands works on. -/
structure Session where
  disk : Disk
  directory : String
  values : List (String × String)
  out : String := ""
  err : String := ""
  status : Nat := 0
  /-- The line has been left. -/
  left : Bool := false
  deriving Inhabited

/-- What a command has to say at its end. -/
structure Effect where
  session : Session
  out : String := ""
  err : String := ""
  status : Nat := 0

namespace Session

def path (s : Session) (p : String) : String := Path.resolve s.directory p

def prints (s : Session) (out : String) : Effect := { session := s, out }

def fails (s : Session) (status : Nat) (err : String) : Effect := { session := s, err, status }

def valueOf (s : Session) (name : String) : String :=
  if name = "?" then toString s.status else (s.values.lookup name).getD ""

end Session

/-- What a character stands for after a backslash. -/
def escaped (c : Char) : List Char :=
  match c with
  | 'n' => ['\n']
  | 't' => ['\t']
  | 'r' => ['\r']
  | '\\' => ['\\']
  | c => ['\\', c]

/-- A text with its backslashes worked out. -/
def unescape : List Char → List Char
  | '\\' :: c :: rest => escaped c ++ unescape rest
  | c :: rest => c :: unescape rest
  | [] => []

/-- A pattern with the next argument in the place of each mark. -/
def fill : List Char → List String → List Char
  | '%' :: '%' :: rest, args => '%' :: fill rest args
  | '%' :: 's' :: rest, args => (args.headD "").toList ++ fill rest args.tail
  | '%' :: 'd' :: rest, args => (args.headD "0").toList ++ fill rest args.tail
  | c :: rest, args => c :: fill rest args
  | [], _ => []

/-- Words with blanks between them, ended unless the first one is `-n`. -/
def echo (words : List String) : String :=
  match words with
  | "-n" :: rest => Text.join " " rest
  | words => Text.join " " words ++ "\n"

/-- The texts of files, one after the other. -/
def concatenate (s : Session) (input : String) (files : List String) : Effect :=
  files.foldl (fun (e : Effect) f =>
    if f = "-" then { e with out := e.out ++ input }
    else match s.disk.at? (s.path f) with
      | some (.file text) => { e with out := e.out ++ text }
      | some .directory => { e with err := e.err ++ s!"cat: {f}: Is a directory\n", status := 1 }
      | none => { e with err := e.err ++ s!"cat: {f}: No such file or directory\n", status := 1 }) { session := s }

/-- The names in a directory, hidden ones left out. -/
def names (s : Session) (directory : String) : String :=
  let shown := (s.disk.children (s.path directory)).filter fun (n, _) => !Text.starts n "."
  String.join (shown.map fun (n, _) => n ++ "\n")

/-- The commands that are known, a shell apart. -/
def builtin? (s : Session) (input : String) : List String → Option Effect
  | [] => some { session := s }
  | "true" :: _ | ":" :: _ | "sleep" :: _ => some { session := s }
  | "false" :: _ => some { session := s, status := 1 }
  | "echo" :: rest => some (s.prints (echo rest))
  | "printf" :: pattern :: rest => some (s.prints (String.ofList (fill (unescape pattern.toList) rest)))
  | "pwd" :: _ => some (s.prints (s.directory ++ "\n"))
  | "printenv" :: name :: _ =>
    some (match s.values.lookup name with
      | some value => s.prints (value ++ "\n")
      | none => { session := s, status := 1 })
  | "ls" :: rest => some (s.prints (names s (rest.headD ".")))
  | "cat" :: [] => some (s.prints input)
  | "cat" :: files => some (concatenate s input files)
  | _ => none

/-- A command of a line; one that is not known is missed by the shell. -/
def simple (s : Session) (input : String) : List String → Effect
  | "exit" :: rest =>
    let status := ((rest.head?.bind (·.toNat?)).getD s.status) % 256
    { session := { s with left := true }, status }
  | "cd" :: rest =>
    let target := s.path (rest.headD "/")
    if s.disk.isDirectory target then { session := { s with directory := target } }
    else s.fails 2 s!"sh: 1: cd: can't cd to {rest.headD target}\n"
  | "echo" :: rest => s.prints (echo (rest.map fun w => String.ofList (unescape w.toList)))
  | words =>
    let name := words.headD ""
    (builtin? s input words).getD (s.fails 127 s!"sh: 1: {name}: not found\n")

/-- A word's text. -/
def textOf (s : Session) (w : Word) : String :=
  String.join (w.map fun
    | .text cs => String.ofList cs
    | .value name _ => s.valueOf (String.ofList name))

/-- The words that a word stands for: a bare variable is as many as its value has. -/
def fieldsOf (s : Session) (w : Word) : List String :=
  match w with
  | [.value name false] =>
    ((Text.split (s.valueOf (String.ofList name)) " ").flatMap fun t => Text.split t "\n").filter (· ≠ "")
  | w => [textOf s w]

/-- Where a stream of a command leads. -/
inductive Sink where
  | out
  | err
  | file (path : String)
  deriving DecidableEq, Repr

/-- What a command reads and where it writes. -/
structure Streams where
  disk : Disk
  input : String
  out : Sink := .out
  err : Sink := .err

/-- A redirection, in the order of the line. -/
def redirect (s : Session) (io : Streams) : Nat × Target → Streams
  | (n, .stream m) =>
    let sink := if m = 2 then io.err else io.out
    if n = 2 then { io with err := sink } else { io with out := sink }
  | (n, .file path append) =>
    let path := s.path (textOf s path)
    let kept := if append then (io.disk.text? path).getD "" else ""
    let io := if path = "/dev/null" then io else { io with disk := io.disk.put path (.file kept) }
    if n = 2 then { io with err := .file path } else { io with out := .file path }
  | (_, .source path) => { io with input := (io.disk.text? (s.path (textOf s path))).getD "" }

/-- What of a text goes to a file. -/
def deliver (d : Disk) (text : String) : Sink → Disk
  | .file path => if path = "/dev/null" then d else d.put path (.file ((d.text? path).getD "" ++ text))
  | _ => d

/-- The text that reaches a stream of the line. -/
def reaching (sink : Sink) (e : Effect) (io : Streams) : String :=
  (if io.out = sink then e.out else "") ++ if io.err = sink then e.err else ""

/-- Runs a command and tells what it hands on. -/
def runCommand (s : Session) (input : String) (c : Command) : Session × String :=
  let io := c.redirects.foldl (redirect s) { disk := s.disk, input }
  let e := simple { s with disk := io.disk } io.input (c.words.flatMap (fieldsOf s))
  let disk := deliver (deliver e.session.disk e.out io.out) e.err io.err
  ({ e.session with disk, status := e.status, err := e.session.err ++ reaching .err e io }, reaching .out e io)

/-- Runs the commands of a step; of several, none can leave the line or change its directory. -/
def runStep (input : String) (s : Session) (step : Step) : Session :=
  let (after, out) := step.commands.foldl (fun (s, input) c => runCommand s input c) (s, input)
  let after := { after with out := s.out ++ out }
  if step.commands.length = 1 then after else { after with directory := s.directory, left := s.left }

def Step.isDue (step : Step) (s : Session) : Bool :=
  match step.condition with
  | .always => true
  | .success => s.status = 0
  | .failure => s.status ≠ 0

/-- Runs the steps of a line, each on the input of the line. -/
def runSteps (input : String) (s : Session) : List Step → Session
  | [] => s
  | step :: rest =>
    if s.left then s
    else runSteps input (if step.isDue s then runStep input s step else s) rest

/-- Runs a command by its name; a shell runs the line that it is given. -/
def run (s : Session) (input : String) : List String → Effect
  | ["sh", "-c", line] =>
    match steps? line with
    | some steps =>
      let after := runSteps input s steps
      { session := after, out := after.out, err := after.err, status := after.status }
    | none => s.fails 2 "sh: 1: Syntax error: Unterminated quoted string\n"
  | words => (builtin? s input words).getD (s.fails 127 "")

/-- The tools that need nothing but the world's disk. -/
def tools {η : Type} : Tools η := fun call => do
  let w ← Action.world
  let directory := call.cwd.getD "/"
  if !w.disk.isDirectory directory then return ⟨127, "", "", false⟩
  let e := run { disk := w.disk, directory, values := call.env } (call.input.getD "") (call.command :: call.args)
  Action.changeDisk fun _ => e.session.disk
  return ⟨e.status, e.out, e.err, false⟩

end QualityGate.Shell
