import QualityGate.Proofs.Actions
import QualityGate.Proofs.LockOwnership
import QualityGate.Proofs.SoundDisks
import QualityGate.Refactor.Command

/-!
# The lock of the refactor command

The command takes the cache lock before it does anything that can change the world, and gives it up in the end, whatever fails in
between. So where there was no lock file there is none when the command has ended, and a lock that is held ends the command with
the world as it was.
-/

namespace QualityGate

variable {η α : Type} {w : World η}

namespace Lock

theorem isName_fileName : Path.IsName fileName := ⟨by decide, by decide, by decide⟩

theorem slash_notMem_fileName : '/' ∉ fileName.toList := by decide

theorem key_path_ne_root (cacheDir : String) : Disk.key (path cacheDir) ≠ "/" :=
  (Path.EndsIn.join ⟨slash_notMem_fileName, .inl rfl⟩ isName_fileName cacheDir).key_ne_root isName_fileName

/-- Once the directory is made and the lock file is read, taking the lock goes by what was read. -/
theorem run_take {cacheDir : String} {staleMs : Number} {found : Option String} {v : World η}
    (hmade : (Action.ensureDirectory cacheDir).run w = (.ok (), v))
    (hread : (Action.readText? (path cacheDir)).run v = (.ok found, v)) :
    (take cacheDir staleMs).run w =
      ((acquire (asker v staleMs) found).1.mapError (.lockHeld (path cacheDir)),
        { v with disk := match (acquire (asker v staleMs) found).2 with
          | some text => v.disk.write (path cacheDir) text
          | none => v.disk.drop (path cacheDir) }) := by
  unfold take
  dsimp only
  rw [Action.run_bind, hmade]
  dsimp only
  rw [Action.run_bind, hread]
  dsimp only
  rw [Action.run_bind, Action.run_world]
  dsimp only
  rcases acquire (asker v staleMs) found with ⟨result, after⟩
  dsimp only
  rw [Action.run_bind, Action.run_changeDisk]
  cases result <;> rfl

/-! ## A lock that is free -/

/-- Where there is no lock file, there is none when the lock could not be taken. -/
theorem text?_take {cacheDir : String} {staleMs : Number} {failure : Failure} {w' : World η}
    (hfree : w.disk.text? (path cacheDir) = none) (h : (take cacheDir staleMs).run w = (.error failure, w')) :
    w'.disk.text? (path cacheDir) = none := by
  rcases Action.run_ensureDirectory cacheDir w with hmade | ⟨refused, hfails⟩
  · obtain ⟨v, hmade, hstillFree⟩ : ∃ v : World η, (Action.ensureDirectory cacheDir).run w = (.ok (), v) ∧
        v.disk.text? (path cacheDir) = none := by
      refine ⟨_, hmade, ?_⟩
      dsimp only
      rw [Disk.text?_ensureDirectory, hfree]
    rcases hread : (Action.readText? (path cacheDir)).run v with ⟨result, seen⟩
    obtain rfl : seen = v := by
      have hworld := Action.readText?_world (path cacheDir) v
      rwa [hread] at hworld
    cases result with
    | error refused =>
      unfold take at h
      rw [Action.run_bind, hmade] at h
      dsimp only at h
      rw [Action.run_bind, hread] at h
      obtain ⟨-, rfl⟩ := Prod.mk.inj h
      exact hstillFree
    | ok found =>
      -- There is nothing to find, so the lock is taken.
      cases found with
      | none =>
        rw [run_take hmade hread] at h
        cases h
      | some text =>
        have hthere := Disk.text?_eq_some_iff.mpr (Action.readText?_ok hread).1
        rw [hstillFree] at hthere
        cases hthere
  · unfold take at h
    rw [Action.run_bind, hfails] at h
    obtain ⟨-, rfl⟩ := Prod.mk.inj h
    exact hfree

/-- Giving the lock up is the last that is done with it, whatever else was done and however it ended. -/
theorem text?_thenAlways_release (cacheDir : String) (body : Action η α) (w : World η) :
    ((Action.thenAlways body (release cacheDir)).run w).2.disk.text? (path cacheDir) = none := by
  have hdropped : ∀ d : Disk, (d.drop (path cacheDir)).text? (path cacheDir) = none := fun d => by
    unfold Disk.text?
    rw [Disk.at?_drop_self (key_path_ne_root cacheDir)]
  unfold Action.thenAlways release Action.remove
  rw [Action.run_bind, Action.run_observe]
  dsimp only
  rw [Action.run_bind, Action.run_changeDisk]
  cases (body.run w).1 <;> exact hdropped _

/-- Where there is no lock file, there is none when something was done with the lock. -/
theorem text?_holding {cacheDir : String} {staleMs : Number} {body : Action η α} (hfree : w.disk.text? (path cacheDir) = none) :
    ((holding cacheDir staleMs body).run w).2.disk.text? (path cacheDir) = none := by
  unfold holding
  rw [Action.run_bind]
  rcases htake : (take cacheDir staleMs).run w with ⟨result, w'⟩
  cases result with
  | error failure => exact text?_take hfree htake
  | ok => exact text?_thenAlways_release cacheDir body w'

/-! ## A lock that is held -/

/-- The lock file names a living process that has taken the lock no longer ago than a record stays good. -/
structure Held (cacheDir : String) (staleMs : Number) (w : World η) (r : LockRecord) : Prop where
  record : (w.disk.text? (path cacheDir)).bind LockRecord.ofText? = some r
  living : r.pid ∈ w.living
  fresh : ∃ since, Instant.ofText? r.acquiredAt = some since ∧ staleMs.lt (.ofInt (w.clock - since)) = false

variable {cacheDir : String} {staleMs : Number} {r : LockRecord}

theorem Held.findsStale (h : Held cacheDir staleMs w r) : (asker w staleMs).findsStale r = false := by
  obtain ⟨since, hsince, hfresh⟩ := h.fresh
  unfold LockAsker.findsStale asker
  rw [hsince]
  simpa using ⟨h.living, hfresh⟩

/-- On a sound disk who asks for a lock that is held learns who holds it, and the disk is as it was. -/
theorem run_take_of_held (h : Held cacheDir staleMs w r) (hsound : w.disk.Sound) {names : List String}
    (hdir : Path.LeadsThrough cacheDir names) :
    ∃ disk : Disk, (∀ other, disk.at? other = w.disk.at? other) ∧
      (take cacheDir staleMs).run w = (.error (.lockHeld (path cacheDir) r.pid), { w with disk }) := by
  obtain ⟨text, htext, hrecord⟩ := Option.bind_eq_some_iff.mp h.record
  have hat := Disk.text?_eq_some_iff.mp htext
  have hkey : Disk.key (path cacheDir) = path cacheDir := (hdir.join isName_fileName slash_notMem_fileName).key_eq
  have hreaches : w.disk.Reaches (path cacheDir) := by
    rw [← hkey]
    exact hsound.reaches (key_path_ne_root cacheDir) hat
  obtain ⟨hreachesDir, hthere⟩ := hreaches.directory hdir isName_fileName slash_notMem_fileName
  have hmade : (Action.ensureDirectory cacheDir).run w = (.ok (), w) := by
    have hnone : w.disk.text? cacheDir = none := by
      unfold Disk.text?
      rw [beq_iff_eq.mp hthere]
    have hnul : cacheDir.toList.contains '\x00' = false := by
      rw [← Bool.not_eq_true, List.contains_iff_mem]
      exact hreachesDir.nul
    rw [Action.run_ensureDirectory_of_clear hnone hnul hreachesDir.clear, hreachesDir.ensureDirectory_eq hthere]
  refine ⟨_, hreaches.at?_write htext, ?_⟩
  rw [run_take hmade (Action.readText?_of_file hat), acquire_eq, Option.bind_some, hrecord, Option.filter_some, h.findsStale]
  rfl

end Lock

/-- The cache directory is an absolute path with nothing left to work out. -/
theorem Context.exists_leadsThrough_cacheDir (base projectPath : String) (cacheDir : Option String) :
    ∃ names, Path.LeadsThrough (Context.of base projectPath cacheDir).cacheDir names := by
  obtain ⟨names, hnames⟩ := Path.exists_leadsThrough_resolve base projectPath
  have hdefault : ∃ names, Path.LeadsThrough (Path.join [Path.resolve base projectPath, Context.defaultCacheName]) names :=
    ⟨_, hnames.join ⟨by decide, by decide, by decide⟩ (by decide)⟩
  unfold Context.of
  dsimp only
  split <;> dsimp only
  · exact hdefault
  · exact hdefault
  · exact Path.exists_leadsThrough_resolve base _

/-- The project that is found stands at the path that was given, and looking for it changes nothing. -/
theorem Project.run_find (base projectPath : String) (toolchain : Option Toolchain) (w : World η) :
    (∃ project : Project, project.root = Path.resolve base projectPath ∧
        (find base projectPath toolchain).run w = (.ok project, w)) ∨
      w.disk.isDirectory (Path.resolve base projectPath) = false ∧
        ∃ failure, (find base projectPath toolchain).run w = (.error failure, w) := by
  unfold find
  dsimp only
  rw [Action.run_bind, Action.run_world]
  dsimp only
  unfold Disk.isDirectory
  cases hat : w.disk.at? (Path.resolve base projectPath) with
  | some entry =>
    cases entry with
    | directory => exact .inl ⟨_, rfl, rfl⟩
    | file text => exact .inr ⟨rfl, _, rfl⟩
  | none =>
    have hworld := Action.refuseBlocked_world "stat" (Path.resolve base projectPath) w
    refine .inr ⟨rfl, ?_⟩
    dsimp only
    rw [Action.run_bind]
    rcases hrefuse : (Action.refuseBlocked "stat" (Path.resolve base projectPath)).run w with ⟨result, after⟩
    rw [hrefuse] at hworld
    obtain rfl : after = w := hworld
    cases result with
    | ok => exact ⟨_, rfl⟩
    | error => exact ⟨_, rfl⟩

namespace RefactorCommand

variable {c : RefactorCommand η}

/-- The lock file of a run. -/
def lockFile (c : RefactorCommand η) : String := Lock.path (c.contextFor (Path.resolve c.cwd c.flags.projectPath)).cacheDir

/-- What a command that is in order does in a project that is there, it does with the lock. -/
theorem exists_run_eq_holding {mode : RefactorMode} {project : Project} (hmode : c.flags.mode = .ok mode)
    (hfind : (Project.find c.cwd c.flags.projectPath c.flags.toolchain).run w = (.ok project, w)) :
    ∃ body : Action η Nat,
      c.run.run w = (Lock.holding (c.contextFor project.root).cacheDir c.settings.lockStaleMs body).run w := by
  unfold run
  rw [Action.run_bind, hmode]
  show ∃ body : Action η Nat, Action.run (Project.find c.cwd c.flags.projectPath c.flags.toolchain >>= _) w = _
  rw [Action.run_bind, hfind]
  exact ⟨_, rfl⟩

/-- A command that is not in order, or whose project is not there, ends before it asks for the lock. -/
theorem run_of_error {failure : Failure} (h : c.flags.mode = .error failure ∨
      (∃ mode, c.flags.mode = .ok mode) ∧ (Project.find c.cwd c.flags.projectPath c.flags.toolchain).run w = (.error failure, w)) :
    c.run.run w = (.error failure, w) := by
  unfold run
  rw [Action.run_bind]
  rcases h with hmode | ⟨⟨mode, hmode⟩, hfind⟩
  · rw [hmode]
    rfl
  · rw [hmode]
    show Action.run (Project.find c.cwd c.flags.projectPath c.flags.toolchain >>= _) w = _
    rw [Action.run_bind, hfind]

/-- The refactor command never leaves or steals the lock. Whatever its tools and its issue tracker do and however it ends, where
there was no lock file there is none when it has ended. And where a lock is held, a command that is in order in a project that is
there fails with the owner of the lock; all that stands on the disk stands there as before, nothing else has changed either, and
neither a tool nor an issue tracker has a part in it. -/
theorem run_lock (c : RefactorCommand η) (w : World η) :
    (w.disk.text? c.lockFile = none → (c.run.run w).2.disk.text? c.lockFile = none) ∧
      ∀ mode r, c.flags.mode = .ok mode → w.disk.isDirectory (Path.resolve c.cwd c.flags.projectPath) = true → w.disk.Sound →
        Lock.Held (c.contextFor (Path.resolve c.cwd c.flags.projectPath)).cacheDir c.settings.lockStaleMs w r →
        ∃ disk : Disk, (∀ path, disk.at? path = w.disk.at? path) ∧
          ∀ tools tracker, ({ c with tools, tracker } : RefactorCommand η).run.run w =
            (.error (.lockHeld c.lockFile r.pid), { w with disk }) := by
  have hfound := Project.run_find c.cwd c.flags.projectPath c.flags.toolchain w
  constructor
  · intro hfree
    cases hmode : c.flags.mode with
    | error failure =>
      rw [run_of_error (.inl hmode)]
      exact hfree
    | ok mode =>
      rcases hfound with ⟨project, hroot, hfind⟩ | ⟨-, failure, hfind⟩
      · obtain ⟨body, hrun⟩ := exists_run_eq_holding hmode hfind
        rw [hrun, hroot]
        exact Lock.text?_holding hfree
      · rw [run_of_error (.inr ⟨⟨mode, hmode⟩, hfind⟩)]
        exact hfree
  · intro mode r hmode hproject hsound hheld
    obtain ⟨names, hdir⟩ := Context.exists_leadsThrough_cacheDir c.cwd (Path.resolve c.cwd c.flags.projectPath)
      (c.flags.cacheDir <|> c.settings.cacheDir)
    obtain ⟨disk, hsame, htake⟩ := Lock.run_take_of_held hheld hsound hdir
    refine ⟨disk, hsame, fun tools tracker => ?_⟩
    rcases hfound with ⟨project, hroot, hfind⟩ | ⟨hnone, -⟩
    · obtain ⟨body, hrun⟩ := @exists_run_eq_holding η w { c with tools, tracker } mode project hmode hfind
      have htake : (Lock.take (({ c with tools, tracker } : RefactorCommand η).contextFor project.root).cacheDir
          c.settings.lockStaleMs).run w = (.error (.lockHeld c.lockFile r.pid), { w with disk }) := by
        rw [hroot]
        exact htake
      rw [hrun]
      unfold Lock.holding
      rw [Action.run_bind, htake]
    · rw [hproject] at hnone
      cases hnone

/-- In a project that nobody works on a command leaves no lock file; while process 7 has worked on it for a second, a command is
refused. -/
theorem refused_whileHeld :
    let c : RefactorCommand Unit :=
      { flags := { (default : RefactorFlags) with projectPath := "." }
        settings := { (default : Settings) with lockStaleMs := .finite 10000 }
        cwd := "/work"
        tools := fun _ => pure { exitCode := 0, stdout := "", stderr := "" }
        tracker := fun _ => Action.fail (.other "no issues") }
    let free : World Unit := { disk := [("/work", .directory)], clock := 0, inner := () }
    let record : LockRecord := ⟨7, Instant.text 0⟩
    let held : World Unit :=
      { disk := [("/work", .directory), ("/work/.refactor-gate", .directory), ("/work/.refactor-gate/.lock", .file record.text)]
        clock := 1000, living := [7], inner := () }
    free.disk.text? c.lockFile = none ∧ (c.run.run free).2.disk.text? c.lockFile = none ∧
      c.flags.mode = .ok .normal ∧ held.disk.isDirectory (Path.resolve c.cwd c.flags.projectPath) = true ∧ held.disk.Sound ∧
      Lock.Held (c.contextFor (Path.resolve c.cwd c.flags.projectPath)).cacheDir c.settings.lockStaleMs held record ∧
      ∃ disk : Disk, (∀ path, disk.at? path = held.disk.at? path) ∧
        ∀ tools tracker, ({ c with tools, tracker } : RefactorCommand Unit).run.run held =
          (.error (.lockHeld c.lockFile 7), { held with disk }) := by
  intro c free record held
  have hlock : c.lockFile = "/work/.refactor-gate/.lock" := by decide +kernel
  have hfree : free.disk.text? c.lockFile = none := by
    rw [hlock]
    decide +kernel
  have hproject : held.disk.isDirectory (Path.resolve c.cwd c.flags.projectPath) = true := by decide +kernel
  have hsound : held.disk.Sound := by decide +kernel
  have hheld : Lock.Held (c.contextFor (Path.resolve c.cwd c.flags.projectPath)).cacheDir c.settings.lockStaleMs held record := by
    have htext : held.disk.text? c.lockFile = some record.text := by
      have hkey : Disk.key "/work/.refactor-gate/.lock" = "/work/.refactor-gate/.lock" := by decide +kernel
      rw [hlock, Disk.text?_eq_some_iff, Disk.at?_eq_lookup (by rw [hkey]; decide), hkey]
      rfl
    have hliving : record.pid ∈ held.living := List.mem_cons_self
    have hsince : Instant.ofText? record.acquiredAt = some 0 := Instant.ofText?_text (by decide)
    have hfresh : c.settings.lockStaleMs.lt (.ofInt (held.clock - 0)) = false := by decide +kernel
    refine ⟨?_, hliving, 0, hsince, hfresh⟩
    rw [show held.disk.text? (Lock.path _) = _ from htext, Option.bind_some]
    exact LockRecord.ofText?_text (Number.representable_intCast (by decide))
  have hmode : c.flags.mode = .ok .normal := rfl
  have hgone := (run_lock c free).1 hfree
  have hrefused := (run_lock c held).2 .normal record hmode hproject hsound hheld
  exact ⟨hfree, hgone, hmode, hproject, hsound, hheld, hrefused⟩

end RefactorCommand

end QualityGate
