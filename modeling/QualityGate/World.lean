import QualityGate.Failure
import QualityGate.Time.Reading
import QualityGate.World.Disk

/-!
# The world of a run

Everything outside a run's own memory: the disk, the clock, the living processes, whether the user has canceled, and what has been
logged and printed. An action may change it, also when it fails. `η` is what the tools of the world keep to themselves, so that a
tool can be any function of the world.
-/

namespace QualityGate

inductive LogLevel where
  | debug
  | info
  | warn
  | error
  deriving DecidableEq, Repr, Inhabited

namespace LogLevel

def name : LogLevel → String
  | debug => "debug"
  | info => "info"
  | warn => "warn"
  | error => "error"

end LogLevel

/-- One entry of the log. -/
structure LogEntry where
  level : LogLevel
  message : String
  fields : List (String × Json)
  deriving Inhabited

/-- Where a printed text goes. -/
inductive Stream where
  | out
  | err
  deriving DecidableEq, Repr, Inhabited

structure World (η : Type) where
  disk : Disk
  clock : Instant
  pid : Int := 1
  living : List Int := []
  canceled : Bool := false
  log : List LogEntry := []
  printed : List (Stream × String) := []
  inner : η
  deriving Inhabited

/-- What may fail and may change the world. -/
abbrev Action (η α : Type) := ExceptT Failure (StateM (World η)) α

/-- A command that is run. -/
structure ToolCall where
  command : String
  args : List String
  cwd : Option String := none
  env : List (String × String) := []
  input : Option String := none
  timeoutMs : Option Int := none
  deriving DecidableEq, Repr, Inhabited

/-- How a command ended. -/
structure CommandResult where
  exitCode : Int
  stdout : String
  stderr : String
  timedOut : Bool := false
  deriving DecidableEq, Repr, Inhabited

/-- The tools of a world: any command has a result. -/
abbrev Tools (η : Type) := ToolCall → Action η CommandResult

/-- A command and its arguments as one line. -/
def describeCommand (command : String) (args : List String) : String := Text.join " " (command :: args)

/-- A failed command is a failure. -/
def CommandResult.ensureSuccess (r : CommandResult) (command : String) (args : List String) : Except Failure CommandResult :=
  if r.exitCode = 0 then .ok r else .error (.commandFailed (describeCommand command args) r.exitCode r.stderr)

namespace World

variable {η : Type}

/-- All that was printed to a stream. -/
def text (w : World η) (s : Stream) : String := String.join ((w.printed.filter fun p => p.1 = s).map (·.2))

end World

namespace Action

variable {η α : Type}

def run (a : Action η α) (w : World η) : Except Failure α × World η := (ExceptT.run a) w

def world : Action η (World η) := getThe (World η)

def change (f : World η → World η) : Action η Unit := modifyThe (World η) f

def changeDisk (f : Disk → Disk) : Action η Unit := change fun w => { w with disk := f w.disk }

def fail (f : Failure) : Action η α := throw f

def ofExcept (e : Except Failure α) : Action η α :=
  match e with
  | .ok a => pure a
  | .error f => throw f

def now : Action η Instant := return (← world).clock

def log (level : LogLevel) (message : String) (fields : List (String × Json) := []) : Action η Unit :=
  change fun w => { w with log := w.log ++ [⟨level, message, fields⟩] }

def print (s : Stream) (text : String) : Action η Unit := change fun w => { w with printed := w.printed ++ [(s, text)] }

/-- A path is a text without NUL, and nothing may stand in the way to it. -/
def refuseBlocked (what path : String) : Action η Unit := do
  if path.toList.contains '\x00' then fail (.pathWithNul path)
  match (← world).disk.obstacle? path with
  | some .file => fail (.file "ENOTDIR" s!"ENOTDIR: not a directory, {what} '{path}'")
  | some .length => fail (.file "ENAMETOOLONG" s!"ENAMETOOLONG: name too long, {what} '{path}'")
  | none => pure ()

/-- The text of a file; none when there is nothing at the path. -/
def readText? (path : String) : Action η (Option String) := do
  match (← world).disk.at? path with
  | some (.file text) => return some text
  | some .directory => fail (.file "EISDIR" "EISDIR: illegal operation on a directory, read")
  | none =>
    refuseBlocked "open" path
    return none

/-- The text of a file that has to be there. -/
def readText (path : String) : Action η String := do
  match ← readText? path with
  | some text => return text
  | none => fail (.file "ENOENT" s!"ENOENT: no such file or directory, open '{path}'")

/-- Makes a directory and those above it that are missing. -/
def ensureDirectory (path : String) : Action η Unit := do
  if ((← world).disk.text? path).isSome then fail (.file "EEXIST" s!"EEXIST: file already exists, mkdir '{path}'")
  refuseBlocked "mkdir" path
  changeDisk (·.ensureDirectory path)

/-- Writes a file, in directories that are made when they are missing. -/
def writeText (path text : String) : Action η Unit := do
  ensureDirectory (Path.dirname path)
  changeDisk (·.write path text)

/-- Removes a file; nothing happens when there is none. -/
def remove (path : String) : Action η Unit := changeDisk (·.drop path)

/-- Copies a file over what stands at another path. -/
def copy (source target : String) : Action η Unit := do
  match (← world).disk.text? source with
  | some text => changeDisk (·.put target (.file text))
  | none => fail (.file "ENOENT" s!"ENOENT: no such file or directory, copyfile '{source}' -> '{target}'")

/-- Moves a file over what stands at another path. -/
def rename (source target : String) : Action η Unit := do
  if ((← world).disk.text? source).isNone then
    fail (.file "ENOENT" s!"ENOENT: no such file or directory, rename '{source}' -> '{target}'")
  changeDisk (·.move source target)

def exists? (path : String) : Action η Bool := return ((← world).disk.at? path).isSome

/-- How an action ends, as a value. -/
def observe (a : Action η α) : Action η (Except Failure α) := fun w =>
  let (result, after) := a.run w
  (.ok result, after)

/-- Does something at the end, whether what comes before fails or not. -/
def thenAlways (a : Action η α) (after : Action η Unit) : Action η α := do
  let result ← observe a
  after
  ofExcept result

end Action

end QualityGate
