import QualityGate.Json.Parser
import QualityGate.Json.Printer
import QualityGate.Schema
import QualityGate.World

/-!
# The cache lock

A run that writes to a cache directory holds the file `.lock` in it. The file is made only when there is none, and then filled with
a record of who holds it since when. A record of a dead process, one that is too old and one that cannot be read are taken over.

`Attempt` is one acquisition taken apart into its operations on the file, so that several can be interleaved; a file that is made
again at the same path is another file, and what is written to the old one is lost. `Lock.acquire` is an attempt that runs alone.
-/

namespace QualityGate

/-- Who holds a lock, since when. -/
structure LockRecord where
  pid : Int
  acquiredAt : String
  deriving DecidableEq, Repr, Inhabited

namespace LockRecord

instance : Encode LockRecord := ⟨fun r => .obj [("pid", encode r.pid), ("acquiredAt", encode r.acquiredAt)]⟩

def check : Check LockRecord := Check.object fun fields =>
  LockRecord.mk <$> Check.field fields "pid" Check.integer <*> Check.field fields "acquiredAt" Check.text

def text (r : LockRecord) : String := (encode r).compact

/-- The record in a lock file; none when it cannot be read. -/
def ofText? (text : String) : Option LockRecord := (Json.ofText? text).bind fun j => (check (some j)).accepted?

end LockRecord

/-- Who asks for a lock, and when it asks: the clock, the living processes, and the age in milliseconds after which a record is
too old. -/
structure LockAsker where
  pid : Int
  now : Instant
  living : Int → Bool
  staleMs : Number

namespace LockAsker

def record (a : LockAsker) : LockRecord := ⟨a.pid, Instant.text a.now⟩

/-- Whether a record no longer keeps others out. -/
def findsStale (a : LockAsker) (r : LockRecord) : Bool :=
  !a.living r.pid ||
    match Instant.ofText? r.acquiredAt with
    | none => true
    | some since => a.staleMs.lt (.ofInt (a.now - since))

end LockAsker

/-- The file at the lock's path, told apart from all files that were there before. -/
structure LockFile where
  id : Nat
  text : String
  deriving DecidableEq, Repr, Inhabited

/-- The lock's path: the file there, if any, and how many files have been made there. -/
structure LockPlace where
  file : Option LockFile
  made : Nat
  deriving DecidableEq, Repr, Inhabited

namespace LockPlace

def create (p : LockPlace) : LockPlace := ⟨some ⟨p.made, ""⟩, p.made + 1⟩

def unlink (p : LockPlace) : LockPlace := { p with file := none }

/-- Writes to a file that was made here; one that is no longer at the path takes the text with it. -/
def write (id : Nat) (text : String) (p : LockPlace) : LockPlace :=
  match p.file with
  | some f => if f.id = id then { p with file := some { f with text } } else p
  | none => p

def record? (p : LockPlace) : Option LockRecord := p.file.bind fun f => LockRecord.ofText? f.text

end LockPlace

/-- Where an attempt to take the lock stands: the operation that comes next, or how it ended. -/
inductive Attempt where
  | create
  | fill (id : Nat)
  | read
  | unlink
  | createAgain
  | readWinner
  | acquired
  | refused (owner : Int)
  deriving DecidableEq, Repr, Inhabited

namespace Attempt

/-- One operation of an attempt on the lock's path. -/
def step (a : LockAsker) : Attempt → LockPlace → Attempt × LockPlace
  | create, p => if p.file.isSome then (read, p) else (fill p.made, p.create)
  | fill id, p => (acquired, p.write id a.record.text)
  | read, p =>
    match p.record? with
    | some r => if a.findsStale r then (unlink, p) else (refused r.pid, p)
    | none => (unlink, p)
  | unlink, p => (createAgain, p.unlink)
  | createAgain, p => if p.file.isSome then (readWinner, p) else (fill p.made, p.create)
  | readWinner, p => (refused ((p.record?.map (·.pid)).getD (-1)), p)
  | acquired, p => (acquired, p)
  | refused owner, p => (refused owner, p)

/-- An attempt that runs alone, for a number of operations. -/
def alone (a : LockAsker) : Nat → Attempt × LockPlace → Attempt × LockPlace
  | 0, s => s
  | n + 1, (stage, p) => alone a n (stage.step a p)

/-- More operations than any attempt takes. -/
def longest : Nat := 6

end Attempt

namespace Lock

/-- The name of the lock file in a cache directory. -/
def fileName : String := ".lock"

def path (cacheDir : String) : String := Path.join [cacheDir, fileName]

/-- Takes the lock or tells who holds it; with it, the text of the lock file afterwards. -/
def acquire (a : LockAsker) (file : Option String) : Except Int Unit × Option String :=
  let (ended, place) := Attempt.alone a Attempt.longest (.create, ⟨file.map fun text => ⟨0, text⟩, 1⟩)
  let after := place.file.map (·.text)
  match ended with
  | .acquired => (.ok (), after)
  | .refused owner => (.error owner, after)
  | _ => (.error (-1), after)

/-- A lock file that several processes use: its text, and who has taken the lock and not given it up. -/
structure Shared where
  file : Option String
  holders : List Int
  deriving DecidableEq, Repr, Inhabited

/-- One of the processes tries to take the lock; otherwise the owner is told. -/
def Shared.acquire (s : Shared) (a : LockAsker) : Except Int Unit × Shared :=
  let (result, file) := Lock.acquire a s.file
  (result, ⟨file, match result with
    | .ok () => a.pid :: s.holders
    | .error _ => s.holders⟩)

/-- One of the processes gives the lock up: the file goes, whoever has taken it over; without the lock nothing happens. -/
def Shared.release (s : Shared) (pid : Int) : Shared :=
  if s.holders.contains pid then ⟨none, s.holders.filter (· ≠ pid)⟩ else s

/-- Who asks in a world. -/
def asker {η : Type} (w : World η) (staleMs : Number) : LockAsker := ⟨w.pid, w.clock, w.living.contains, staleMs⟩

/-- Takes the lock of a cache directory. -/
def take {η : Type} (cacheDir : String) (staleMs : Number) : Action η Unit := do
  let file := path cacheDir
  Action.ensureDirectory cacheDir
  let found ← Action.readText? file
  let w ← Action.world
  let (result, after) := acquire (asker w staleMs) found
  Action.changeDisk fun d =>
    match after with
    | some text => d.write file text
    | none => d.drop file
  match result with
  | .ok () => return ()
  | .error owner => Action.fail (.lockHeld file owner)

/-- Gives up a lock that is held. -/
def release {η : Type} (cacheDir : String) : Action η Unit := Action.remove (path cacheDir)

/-- Does something while holding the lock. -/
def holding {η α : Type} (cacheDir : String) (staleMs : Number) (body : Action η α) : Action η α := do
  take cacheDir staleMs
  Action.thenAlways body (release cacheDir)

end Lock

end QualityGate
