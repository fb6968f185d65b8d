import QualityGate.Refactor.Loop
import QualityGate.World.Script

/-!
# Rehearsing a run

A rehearsal runs the refactor loop with collaborators that act from a script, on a disk of its own. What each of them answers is given
in lists that are gone through in order; the last entry of a list stays.
-/

namespace QualityGate

/-- A moment at which a rehearsal may be canceled: before it starts, or as a collaborator is turned to. -/
inductive RehearsalMoment where
  | start
  | context
  | rewrite
  | agent
  deriving DecidableEq, Repr, Inhabited

namespace RehearsalMoment

def name : RehearsalMoment → String
  | start => "start"
  | context => "context"
  | rewrite => "rewrite"
  | agent => "agent"

instance : Decode RehearsalMoment :=
  ⟨fun j => j.str?.bind fun text => [start, context, rewrite, agent].find? fun m => m.name = text⟩

end RehearsalMoment

/-- What the collaborators of a rehearsal do, and what they have seen. -/
structure Rehearsal where
  script : Script
  samples : List QualitySample
  fileSamples : List FileSample
  builds : List BuildCheck
  /-- The agent's answers; with none of them there is no agent. -/
  answers : List (Except Failure AgentAnswer)
  /-- What the rewriter makes of files; with none of these, the built-in one is at work. -/
  rewrites : List (Except Failure RewriteOutcome)
  templates : List RewriteTemplate
  state : Option RefactorState
  /-- The milliseconds that a build check takes. -/
  advanceMs : Int
  cancelAt : Option RehearsalMoment
  /-- The iteration of each state that was saved. -/
  saved : List Number := []
  shown : List String := []
  deriving Inhabited

/-- An entry of a list: a failure of a command, an answer that cannot be read, any other failure, or what is handed out. -/
def RehearsalEntry.ofJson {α : Type} [Decode α] [Inhabited α] (j : Json) : Except Failure α :=
  match j.get? "failed", j.get? "unparsable", j.get? "throws" with
  | some (.arr [.str command, code, .str stderr]), _, _ => .error (.commandFailed command ((decode? code).getD 1) stderr)
  | _, some (.str command), _ => .error (.unreadableAnswer command)
  | _, _, some (.str message) => .error (.other message)
  | _, _, _ => .ok ((decode? j).getD default)

instance : Decode Rehearsal where
  decode? j := do
    let entries (name : String) : List Json := j.fieldD name []
    return { script := ⟨j.fieldD "tools" [], []⟩, samples := j.fieldD "samples" [], fileSamples := j.fieldD "fileSamples" [],
             builds := j.fieldD "builds" [], answers := (entries "agent").map RehearsalEntry.ofJson,
             rewrites := (entries "rewrites").map RehearsalEntry.ofJson, templates := j.fieldD "templates" [],
             state := j.fieldD "state" none, advanceMs := j.fieldD "advanceMs" 0, cancelAt := j.fieldD "abortAt" none }

instance : Scripted Rehearsal := ⟨Rehearsal.script, fun s r => { r with script := s }⟩

namespace Rehearsal

/-- The next entry of a list, and the list after it. -/
def next {α : Type} : List α → Option α × List α
  | [] => (none, [])
  | [a] => (some a, [a])
  | a :: rest => (some a, rest)

def read : Action Rehearsal Rehearsal := return (← Action.world).inner

def change (f : Rehearsal → Rehearsal) : Action Rehearsal Unit := Action.change fun w => { w with inner := f w.inner }

/-- Cancels the run when this is the moment for it. -/
def reach (m : RehearsalMoment) : Action Rehearsal Unit := do
  if (← read).cancelAt = some m then Action.change fun w => { w with canceled := true }

/-- The sources below a directory, whatever directories they stand in. -/
def documentsBelow (d : Disk) (root : String) (t : Toolchain) : List Document :=
  let found := d.files.filterMap fun (path, text) =>
    (Discovery.below? root path).bind fun p => if isSourceFile t p then some (⟨p, text.toList⟩ : Document) else none
  sortBy (fun a b => unitOrder a.path b.path) found

/-- The context of what is on the disk, without a history. -/
def context (root : String) : Action Rehearsal DeepContext := do
  reach .context
  let w ← Action.world
  let t := (w.inner.samples.head?.map (·.toolchain)).getD .rust
  return Snapshot.context ⟨root, t, documentsBelow w.disk root t⟩ 10 (Churn.empty Query.defaultDays) w.clock

def measure : Action Rehearsal QualitySample := do
  let (sample, rest) := next (← read).samples
  change fun r => { r with samples := rest }
  match sample with
  | some s => return s
  | none => Action.fail (.other "no sample is left")

def measureFile : Action Rehearsal FileSample := do
  let (sample, rest) := next (← read).fileSamples
  change fun r => { r with fileSamples := rest }
  return sample.getD ⟨100, []⟩

def verifyBuild : Action Rehearsal BuildCheck := do
  let r ← read
  Action.change fun w => { w with clock := w.clock + r.advanceMs }
  let (build, rest) := next r.builds
  change fun r => { r with builds := rest }
  return build.getD ⟨true, false, ""⟩

def agent : RewriteAgent Rehearsal := fun _ => do
  reach .agent
  let (answer, rest) := next (← read).answers
  change fun r => { r with answers := rest }
  match answer with
  | some a => Action.ofExcept a
  | none => Action.fail (.other "no answer is left")

def rewriter (root : String) : Rewriter Rehearsal := fun input => do
  reach .rewrite
  let r ← read
  let (rewrite, rest) := next r.rewrites
  change fun r => { r with rewrites := rest }
  match rewrite with
  | none => Rewrite.withTemplates (Script.tools root) r.templates input
  | some outcome =>
    let outcome ← Action.ofExcept outcome
    if outcome.changed then Action.writeText input.path outcome.content
    return outcome

def show_ (text : String) : Action Rehearsal Unit := change fun r => { r with shown := r.shown ++ [text] }

/-- The collaborators of a rehearsal in a directory. -/
def collaborators (root : String) (r : Rehearsal) : Collaborators Rehearsal where
  gauge := { context := context root, measure, measureFile := fun _ => measureFile }
  load := return (← read).state
  save := fun s => change fun r => { r with saved := r.saved ++ [s.iteration] }
  rewriter := rewriter root
  verifyBuild := verifyBuild
  agent := if r.answers.isEmpty then none else some agent
  showProgress := show_
  showRequest := show_

/-- Rehearses a run. -/
def perform (cfg : RunConfig) : Action Rehearsal RefactorOutcome := do
  reach .start
  let r ← read
  Refactor.refactor (collaborators cfg.projectRoot r) cfg

end Rehearsal

end QualityGate
