import QualityGate.Proofs.DiskEntries
import QualityGate.Refactor.Loop

/-!
# Reasoning about actions

`RunAction.Ensures pre a post` says of an action of a run what holds at its end, whether it succeeds or fails, when something holds
before it. There is a rule for each way of putting actions together. `Action.Spares` says of an action that it leaves the entry at one
path of the disk alone, and `Action.KeepsClock` that it leaves the clock alone.
-/

namespace QualityGate

variable {η α β : Type}

namespace Action

/-- Two actions in a row: the second begins where the first has ended, and only if that succeeded. -/
theorem run_bind (a : Action η α) (f : α → Action η β) (w : World η) :
    (a >>= f).run w = match a.run w with
      | (.ok x, after) => (f x).run after
      | (.error failure, after) => (.error failure, after) := by
  show (ExceptT.bindCont f ((a.run w).1)) (a.run w).2 = _
  cases h : a.run w with
  | mk result after => cases result <;> rfl

/-- Two actions in a row succeed when both do, one behind the other. -/
theorem run_bind_eq_ok {a : Action η α} {f : α → Action η β} {w w' : World η} {y : β} :
    (a >>= f).run w = (.ok y, w') ↔ ∃ x v, a.run w = (.ok x, v) ∧ (f x).run v = (.ok y, w') := by
  rw [run_bind]
  rcases a.run w with ⟨result, v⟩
  cases result with
  | ok x =>
    constructor
    · exact fun h => ⟨x, v, rfl, h⟩
    · rintro ⟨_, _, heq, h⟩
      cases heq
      exact h
  | error failure =>
    refine iff_of_false (fun h => ?_) fun ⟨_, _, heq, _⟩ => ?_
    · cases h
    · cases heq

theorem run_world (w : World η) : (world : Action η (World η)).run w = (.ok w, w) := rfl

theorem run_fail (failure : Failure) (w : World η) : (fail failure : Action η α).run w = (.error failure, w) := rfl

theorem run_changeDisk (f : Disk → Disk) (w : World η) : (changeDisk f).run w = (.ok (), { w with disk := f w.disk }) := rfl

theorem run_observe (a : Action η α) (w : World η) : (observe a).run w = (.ok (a.run w).1, (a.run w).2) := rfl

/-- Whether an action leaves the entry at a path as it is, however it ends. -/
def Spares (path : String) (a : Action η α) : Prop := ∀ w, (a.run w).2.disk.at? path = w.disk.at? path

/-- Whether an action leaves the entry at a path as it is, when there is one. -/
def Keeps (path : String) (a : Action η α) : Prop :=
  ∀ w e, w.disk.at? path = some e → (a.run w).2.disk.at? path = some e

/-- Whether an action leaves the text at a path as it is, however it ends; a directory may be made there. -/
def SparesText (path : String) (a : Action η α) : Prop := ∀ w, (a.run w).2.disk.text? path = w.disk.text? path

variable {path : String}

theorem Spares.keeps {a : Action η α} (h : Spares path a) : Keeps path a := fun w _ hat => (h w).trans hat

theorem spares_world : Spares path (world : Action η (World η)) := fun _ => rfl

theorem spares_log (level : LogLevel) (message : String) (fields : List (String × Json)) :
    Spares path (log level message fields : Action η Unit) := fun _ => rfl

/-- Whoever leaves an entry alone leaves the text at its path alone. -/
theorem Spares.text {a : Action η α} (h : a.Spares path) : a.SparesText path := fun w => by
  unfold Disk.text?
  rw [h w]

theorem spares_remove {other : String} (h : Disk.key path ≠ Disk.key other) : (remove other : Action η Unit).Spares path :=
  fun w => Disk.at?_drop_of_ne h w.disk

/-- Renaming touches no entry but the two that it names. -/
theorem spares_rename {source target : String} (hsource : Disk.key path ≠ Disk.key source) (htarget : Disk.key path ≠ Disk.key target) :
    (rename source target : Action η Unit).Spares path := by
  intro w
  unfold rename
  rw [run_bind, run_world]
  dsimp only
  split
  · rfl
  · show (w.disk.move source target).at? path = w.disk.at? path
    unfold Disk.move
    split
    · exact (Disk.at?_put_of_ne htarget _ _).trans (Disk.at?_drop_of_ne hsource w.disk)
    · rfl

/-- Two actions in a row keep an entry when both do. -/
theorem Keeps.bind {a : Action η α} {f : α → Action η β} (ha : Keeps path a) (hf : ∀ x, Keeps path (f x)) :
    Keeps path (a >>= f) := by
  intro w e hat
  have hafter := ha w e hat
  rw [run_bind]
  cases h : a.run w with
  | mk result after =>
    rw [h] at hafter
    cases result with
    | ok x => exact hf x after e hafter
    | error failure => exact hafter

/-- Looking whether a path is blocked changes nothing. -/
theorem refuseBlocked_world (what other : String) (w : World η) : ((refuseBlocked what other).run w).2 = w := by
  unfold refuseBlocked
  by_cases hnul : other.toList.contains '\x00' = true
  · rw [if_pos hnul]
    rfl
  · rw [if_neg hnul]
    rw [run_bind, run_world]
    dsimp only
    cases w.disk.obstacle? other with
    | none => rfl
    | some obstacle => cases obstacle <;> rfl

/-- Making directories succeeds and changes the disk alone, or fails and changes nothing. -/
theorem run_ensureDirectory (path : String) (w : World η) :
    (ensureDirectory path).run w = (.ok (), { w with disk := w.disk.ensureDirectory path }) ∨
      ∃ failure, (ensureDirectory path).run w = (.error failure, w) := by
  unfold ensureDirectory
  rw [run_bind, run_world]
  dsimp only
  by_cases hfile : (w.disk.text? path).isSome = true
  · right
    rw [if_pos hfile, run_bind, run_fail]
    exact ⟨_, rfl⟩
  · have hworld := refuseBlocked_world "mkdir" path w
    rw [if_neg hfile, run_bind]
    rcases hrefuse : (refuseBlocked "mkdir" path).run w with ⟨result, after⟩
    rw [hrefuse] at hworld
    obtain rfl := hworld
    cases result with
    | ok =>
      left
      dsimp only
      rw [run_changeDisk]
    | error failure => exact .inr ⟨failure, rfl⟩

/-- Writing a file succeeds and changes the disk alone, or fails and changes nothing. -/
theorem run_writeText (path text : String) (w : World η) :
    (writeText path text).run w =
        (.ok (), { w with disk := (w.disk.ensureDirectory (Path.dirname path)).write path text }) ∨
      ∃ failure, (writeText path text).run w = (.error failure, w) := by
  unfold writeText
  rw [run_bind]
  rcases run_ensureDirectory (Path.dirname path) w with hmade | ⟨failure, hfails⟩
  · rw [hmade]
    left
    dsimp only
    rw [run_changeDisk]
  · rw [hfails]
    exact .inr ⟨failure, rfl⟩

/-- A path that is blocked is no reason to think that the user has canceled. -/
theorem refuseBlocked_uncanceled (what other message : String) (w : World η) :
    ((refuseBlocked what other).run w).1 ≠ .error (.canceled message) := by
  unfold refuseBlocked
  by_cases hnul : other.toList.contains '\x00' = true
  · rw [if_pos hnul]
    nofun
  · rw [if_neg hnul, run_bind, run_world]
    dsimp only
    cases w.disk.obstacle? other with
    | none => nofun
    | some obstacle => cases obstacle <;> nofun

/-- A file that cannot be written is no reason to think that the user has canceled. -/
theorem writeText_uncanceled (path text message : String) (w : World η) :
    ((writeText path text).run w).1 ≠ .error (.canceled message) := by
  unfold writeText ensureDirectory
  rw [run_bind, run_bind, run_world]
  dsimp only
  by_cases hfile : (w.disk.text? (Path.dirname path)).isSome = true
  · rw [if_pos hfile]
    nofun
  · have hblocked := refuseBlocked_uncanceled "mkdir" (Path.dirname path) message w
    rw [if_neg hfile, run_bind]
    rcases hrefuse : (refuseBlocked "mkdir" (Path.dirname path)).run w with ⟨result, after⟩
    rw [hrefuse] at hblocked
    cases result with
    | ok => nofun
    | error failure => exact hblocked

/-- Writing a file leaves the text of every other one. -/
theorem sparesText_writeText {other : String} (h : Disk.key path ≠ Disk.key other) (text : String) :
    SparesText path (writeText other text : Action η Unit) := by
  intro w
  rcases run_writeText other text w with hrun | ⟨failure, hfails⟩
  · rw [hrun]
    dsimp only
    exact (Disk.text?_write_of_ne h _ text).trans (Disk.text?_ensureDirectory _ _ _)
  · rw [hfails]

/-- A file that was written is there with its text. -/
theorem at?_writeText (h : Disk.key path ≠ "/") {text : String} {w w' : World η} (hok : (writeText path text).run w = (.ok (), w')) :
    w'.disk.at? path = some (.file text) := by
  rcases run_writeText path text w with hrun | ⟨failure, hfails⟩
  · rw [← (Prod.mk.inj (hrun.symm.trans hok)).2]
    dsimp only
    exact Disk.at?_write_self h (w.disk.ensureDirectory (Path.dirname path)) text
  · cases (Prod.mk.inj (hfails.symm.trans hok)).1

/-- Reading a file goes by the entry at its path. -/
theorem run_readText? (path : String) (w : World η) : (readText? path).run w = match w.disk.at? path with
    | some (.file text) => (.ok (some text), w)
    | some .directory => (.error (.file "EISDIR" "EISDIR: illegal operation on a directory, read"), w)
    | none => (do refuseBlocked "open" path; return none : Action η (Option String)).run w := by
  unfold readText?
  rw [run_bind, run_world]
  dsimp only
  cases w.disk.at? path with
  | none => rfl
  | some entry => cases entry <;> rfl

/-- What is read of a file is its text. -/
theorem readText?_of_file {w : World η} {text : String} (h : w.disk.at? path = some (.file text)) :
    (readText? path).run w = (.ok (some text), w) := by
  rw [run_readText?, h]

/-- A path with nothing in its way is not refused. -/
theorem run_refuseBlocked_of_clear {what : String} {w : World η} (hnul : path.toList.contains '\x00' = false)
    (hclear : w.disk.obstacle? path = none) : (refuseBlocked what path).run w = (.ok (), w) := by
  unfold refuseBlocked
  rw [hnul, if_neg Bool.false_ne_true, run_bind, run_world]
  dsimp only
  rw [hclear]
  rfl

/-- With nothing in the way a directory is made. -/
theorem run_ensureDirectory_of_clear {w : World η} (hfile : w.disk.text? path = none) (hnul : path.toList.contains '\x00' = false)
    (hclear : w.disk.obstacle? path = none) :
    (ensureDirectory path).run w = (.ok (), { w with disk := w.disk.ensureDirectory path }) := by
  unfold ensureDirectory
  rw [run_bind, run_world]
  dsimp only
  rw [hfile, Option.isSome_none, if_neg Bool.false_ne_true, run_bind, run_refuseBlocked_of_clear hnul hclear]
  dsimp only
  rw [run_changeDisk]

/-- With nothing in the way a file is written. -/
theorem run_writeText_of_clear {text : String} {w : World η} (hfile : w.disk.text? (Path.dirname path) = none)
    (hnul : (Path.dirname path).toList.contains '\x00' = false) (hclear : w.disk.obstacle? (Path.dirname path) = none) :
    (writeText path text).run w = (.ok (), { w with disk := (w.disk.ensureDirectory (Path.dirname path)).write path text }) := by
  unfold writeText
  rw [run_bind, run_ensureDirectory_of_clear hfile hnul hclear]
  dsimp only
  rw [run_changeDisk]

/-- With nothing in the way a file that is not there is found absent. -/
theorem readText?_of_clear {w : World η} (hat : w.disk.at? path = none) (hnul : path.toList.contains '\x00' = false)
    (hclear : w.disk.obstacle? path = none) : (readText? path).run w = (.ok none, w) := by
  rw [run_readText?, hat, run_bind, run_refuseBlocked_of_clear hnul hclear]
  rfl

/-- A file that can be read is there with its text, or not there at all. -/
theorem readText?_ok {w w' : World η} {standing : Option String} (h : (readText? path).run w = (.ok standing, w')) :
    w.disk.at? path = standing.map .file ∧ Disk.key path ≠ "/" := by
  have hroot : w.disk.at? path ≠ some .directory → Disk.key path ≠ "/" := fun hat hkey => hat (if_pos hkey)
  rw [run_readText?] at h
  cases hat : w.disk.at? path with
  | none =>
    rw [hat, run_bind] at h
    refine ⟨?_, hroot (by rw [hat]; nofun)⟩
    rcases hrefuse : (refuseBlocked "open" path).run w with ⟨result, after⟩
    rw [hrefuse] at h
    cases result with
    | ok => rw [← Except.ok.inj (Prod.mk.inj h).1]; rfl
    | error => cases (Prod.mk.inj h).1
  | some entry =>
    rw [hat] at h
    cases entry with
    | file text =>
      rw [← Except.ok.inj (Prod.mk.inj h).1]
      exact ⟨rfl, hroot (by rw [hat]; nofun)⟩
    | directory => cases (Prod.mk.inj h).1

/-- Reading a file changes nothing. -/
theorem readText?_world (path : String) (w : World η) : ((readText? path).run w).2 = w := by
  rw [run_readText?]
  split
  · rfl
  · rfl
  · have hworld := refuseBlocked_world "open" path w
    rw [run_bind]
    rcases hrefuse : (refuseBlocked "open" path).run w with ⟨result, after⟩
    rw [hrefuse] at hworld
    cases result with
    | ok => exact hworld
    | error => exact hworld

/-- A text that was read stands at the path. -/
theorem text?_of_readText {text : String} {w w' : World η} (h : (readText path).run w = (.ok text, w')) :
    w'.disk.text? path = some text := by
  obtain ⟨standing, v, hread, hrest⟩ := run_bind_eq_ok.mp h
  have hworld := readText?_world path w
  rw [hread] at hworld
  obtain rfl : v = w := hworld
  cases standing with
  | none => cases (Prod.mk.inj hrest).1
  | some found =>
    obtain ⟨heq, rfl⟩ := Prod.mk.inj hrest
    rw [← Except.ok.inj heq, Disk.text?_eq_some_iff, (readText?_ok hread).1]
    rfl

/-! ## The clock -/

/-- Whether an action leaves the clock as it is, however it ends. -/
def KeepsClock (a : Action η α) : Prop := ∀ w, (a.run w).2.clock = w.clock

namespace KeepsClock

theorem pure (x : α) : KeepsClock (Pure.pure x : Action η α) := fun _ => rfl

/-- A failure takes no time. -/
theorem fail (failure : Failure) : KeepsClock (Action.fail failure : Action η α) := fun _ => rfl

theorem world : KeepsClock (Action.world : Action η (World η)) := fun _ => rfl

theorem now : KeepsClock (Action.now : Action η Instant) := fun _ => rfl

theorem log (level : LogLevel) (message : String) (fields : List (String × Json)) :
    KeepsClock (Action.log level message fields : Action η Unit) := fun _ => rfl

theorem changeDisk (f : Disk → Disk) : KeepsClock (Action.changeDisk f : Action η Unit) := fun _ => rfl

theorem remove (path : String) : KeepsClock (Action.remove path : Action η Unit) := changeDisk _

theorem refuseBlocked (what path : String) : KeepsClock (Action.refuseBlocked what path : Action η Unit) := fun w => by
  rw [refuseBlocked_world]

/-- Two actions in a row leave the clock alone when both do. -/
theorem bind {a : Action η α} {f : α → Action η β} (ha : KeepsClock a) (hf : ∀ x, KeepsClock (f x)) : KeepsClock (a >>= f) := by
  intro w
  have hclock := ha w
  rw [run_bind]
  rcases h : a.run w with ⟨result, after⟩
  rw [h] at hclock
  cases result with
  | ok x => exact (hf x after).trans hclock
  | error failure => exact hclock

/-- Reading takes no time. -/
theorem readText? (path : String) : KeepsClock (Action.readText? path : Action η (Option String)) := by
  refine world.bind fun w => ?_
  split
  · exact pure _
  · exact fail _
  · exact (refuseBlocked _ _).bind fun _ => pure _

/-- Writing takes no time. -/
theorem writeText (path text : String) : KeepsClock (Action.writeText path text : Action η Unit) := by
  intro w
  rcases run_writeText path text w with hrun | ⟨failure, hfails⟩
  · rw [hrun]
  · rw [hfails]

/-- Copying takes no time. -/
theorem copy (source target : String) : KeepsClock (Action.copy source target : Action η Unit) := by
  refine world.bind fun w => ?_
  split
  · exact changeDisk _
  · exact fail _

/-- Renaming takes no time. -/
theorem rename (source target : String) : KeepsClock (Action.rename source target : Action η Unit) := by
  refine world.bind fun w => ?_
  split
  · exact (fail _).bind fun _ => changeDisk _
  · exact changeDisk _

end KeepsClock

end Action

namespace RunAction

/-- Goes on from where an action has ended; a failure is the end. -/
def goOn (ended : (Except Failure α × Run) × World η) (f : α → RunAction η β) : (Except Failure β × Run) × World η :=
  match ended with
  | ((.ok x, r), w) => f x r w
  | ((.error failure, r), w) => ((.error failure, r), w)

@[simp] theorem goOn_ok (x : α) (r : Run) (w : World η) (f : α → RunAction η β) : goOn ((.ok x, r), w) f = f x r w := rfl

@[simp] theorem goOn_error (failure : Failure) (r : Run) (w : World η) (f : α → RunAction η β) :
    goOn ((.error failure, r), w) f = ((.error failure, r), w) := rfl

/-- Two actions of a run in a row: one goes on from what the first comes to. -/
theorem bind_apply (a : RunAction η α) (f : α → RunAction η β) (r : Run) (w : World η) : (a >>= f) r w = goOn (a r w) f := by
  show (ExceptT.bindCont f ((a r w).1.1)) (a r w).1.2 (a r w).2 = _
  obtain ⟨⟨result, r'⟩, w'⟩ := a r w
  cases result <;> rfl

/-- An action within a run does to the world what it does by itself, and nothing to the run. -/
theorem act_apply {a : Action η α} {w w' : World η} {result : Except Failure α} (h : a.run w = (result, w')) (r : Run) :
    act a r w = ((result, r), w') := by
  unfold act
  rw [h]

/-- Two actions of a run in a row succeed when both do, one behind the other. -/
theorem bind_eq_ok {a : RunAction η α} {f : α → RunAction η β} {r r' : Run} {w w' : World η} {y : β} :
    (a >>= f) r w = ((.ok y, r'), w') ↔ ∃ x r₁ w₁, a r w = ((.ok x, r₁), w₁) ∧ f x r₁ w₁ = ((.ok y, r'), w') := by
  rw [bind_apply]
  rcases a r w with ⟨⟨result, r₁⟩, w₁⟩
  cases result with
  | ok x =>
    constructor
    · exact fun h => ⟨x, r₁, w₁, rfl, h⟩
    · rintro ⟨_, _, _, heq, h⟩
      cases heq
      exact h
  | error failure =>
    refine iff_of_false (fun h => ?_) fun ⟨_, _, _, heq, _⟩ => ?_
    · cases h
    · cases heq

/-- An action within a run succeeds when it does so by itself. -/
theorem act_eq_ok {a : Action η α} {r r' : Run} {w w' : World η} {x : α} :
    act a r w = ((.ok x, r'), w') ↔ a.run w = (.ok x, w') ∧ r = r' := by
  unfold act
  rcases a.run w with ⟨result, after⟩
  constructor
  · intro h
    cases h
    exact ⟨rfl, rfl⟩
  · rintro ⟨heq, rfl⟩
    cases heq
    rfl

/-- What one sees by looking how an action ends is how it ends. -/
theorem observe_eq_ok {a : RunAction η α} {r r' : Run} {w w' : World η} {result : Except Failure α} :
    observe a r w = ((.ok result, r'), w') ↔ a r w = ((result, r'), w') := by
  unfold observe
  rcases a r w with ⟨⟨ended, r₁⟩, w₁⟩
  constructor
  · intro h
    cases h
    rfl
  · intro h
    cases h
    rfl

/-- An action that ends well ends in the run and the world it leads to. -/
theorem eq_of_toOption {ended : (Except Failure α × Run) × World η} {x : α} (h : ended.1.1.toOption = some x) :
    ended = ((.ok x, ended.1.2), ended.2) := by
  obtain ⟨⟨result, r⟩, w⟩ := ended
  cases result with
  | ok y => rw [← Option.some.inj h]
  | error => cases h

/-- What holds at the end of an action, when something holds before it. -/
structure Ensures (pre : Run → World η → Prop) (a : RunAction η α) (post : Except Failure α → Run → World η → Prop) : Prop where
  holds : ∀ r w, pre r w → post (a r w).1.1 (a r w).1.2 (a r w).2

namespace Ensures

variable {pre : Run → World η → Prop} {post : Except Failure α → Run → World η → Prop}

theorem pure {x : α} (h : ∀ r w, pre r w → post (.ok x) r w) : Ensures pre (Pure.pure x) post := ⟨h⟩

theorem throw {failure : Failure} (h : ∀ r w, pre r w → post (.error failure) r w) :
    Ensures pre (MonadExcept.throw failure : RunAction η α) post := ⟨h⟩

theorem act {a : Action η α} (h : ∀ r w, pre r w → post (a.run w).1 r (a.run w).2) : Ensures pre (RunAction.act a) post := ⟨h⟩

theorem change {f : Run → Run} {post : Except Failure Unit → Run → World η → Prop}
    (h : ∀ r w, pre r w → post (.ok ()) (f r) w) : Ensures pre (RunAction.change f) post := ⟨h⟩

theorem run {post : Except Failure Run → Run → World η → Prop} (h : ∀ r w, pre r w → post (.ok r) r w) :
    Ensures pre RunAction.run post := ⟨h⟩

theorem observe {a : RunAction η α} {post : Except Failure (Except Failure α) → Run → World η → Prop}
    (h : Ensures pre a fun result => post (.ok result)) : Ensures pre (RunAction.observe a) post := ⟨h.holds⟩

/-- Two actions in a row: what the first ensures when it succeeds is where the second begins, and its failures must be what is asked for. -/
theorem bind {a : RunAction η α} {f : α → RunAction η β} {middle : Except Failure α → Run → World η → Prop}
    {post : Except Failure β → Run → World η → Prop} (ha : Ensures pre a middle) (hf : ∀ x, Ensures (middle (.ok x)) (f x) post)
    (herror : ∀ failure r w, middle (.error failure) r w → post (.error failure) r w) : Ensures pre (a >>= f) post := by
  refine ⟨fun r w hpre => ?_⟩
  have hmiddle := ha.holds r w hpre
  rw [bind_apply]
  rcases h : a r w with ⟨⟨result, r'⟩, w'⟩
  rw [h] at hmiddle
  cases result with
  | ok x => exact (hf x).holds r' w' hmiddle
  | error failure => exact herror failure r' w' hmiddle

/-- A change of the state does not fail, so what follows goes on from the changed state. -/
theorem changeState_bind {f : RefactorState → RefactorState} {g : Unit → RunAction η α} {middle : Run → World η → Prop}
    (h : ∀ r w, pre r w → middle { r with state := f r.state } w) (hg : Ensures middle (g ()) post) :
    Ensures pre (changeState f >>= g) post := ⟨fun r w hr => hg.holds _ w (h r w hr)⟩

/-- What goes on from a look at the run goes on from the run that it sees. -/
theorem run_bind {f : Run → RunAction η α} (h : ∀ seen, Ensures (fun r w => pre r w ∧ r = seen) (f seen) post) :
    Ensures pre (RunAction.run >>= f) post := ⟨fun r w hr => (h r).holds r w ⟨hr, rfl⟩⟩

/-- What does not depend on the run or the world may be taken out of the condition before an action. -/
theorem assume {p : Prop} {a : RunAction η α} (h : p → Ensures pre a post) : Ensures (fun r w => pre r w ∧ p) a post :=
  ⟨fun r w hr => (h hr.2).holds r w hr.1⟩

/-- What is ensured may be asked for less and ensured under more. -/
theorem weaken {pre' : Run → World η → Prop} {post' : Except Failure α → Run → World η → Prop} {a : RunAction η α}
    (h : Ensures pre a post) (hpre : ∀ r w, pre' r w → pre r w) (hpost : ∀ x r w, post x r w → post' x r w) :
    Ensures pre' a post' := ⟨fun r w hw => hpost _ _ _ (h.holds r w (hpre r w hw))⟩

end Ensures

end RunAction

end QualityGate
