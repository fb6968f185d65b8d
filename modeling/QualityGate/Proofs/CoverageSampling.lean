import QualityGate.Coverage.Sampler
import QualityGate.Proofs.Actions

/-!
# How coverage is measured within its time

A tool chain is a row of tools, each of which is started only after the one before it has done what it is there for. `Setup.Runs`
says how a chain goes: it is cut off when the time is up, given up at a tool that has not done its part, or run to its end. `Tells`
says which percentage the report at that end has for a file or for the project, and a sampler takes this one
(`percentOf?_eq_some_iff`). `Setup.Tries` says how chain after chain is tried until one gives a percentage or the time is up.
`measure_accounts` is the main result: whatever the tools answer and whatever the clock shows, a measurement goes this way, gives each
tool the time that is left, and tells of every tool that was started and of no other.
-/

namespace QualityGate.Coverage

variable {η α β : Type}

/-! ## Tools and tool chains -/

/-- A tool that was started: when, with which call, how it ended, and which profiles there were then. -/
structure Started where
  time : Instant
  tool : String
  call : ToolCall
  result : CommandResult
  profiles : List String

/-- What is written down about a tool that was started. -/
def Started.attempt (e : Started) : CoverageAttempt := ⟨e.tool, e.result.exitCode, e.result.timedOut⟩

/-- One tool of a tool chain, and whether it has done what it is there for. -/
structure Stage where
  tool : String
  command : String
  done : Started → Bool

/-- Tools that lead to a report, which the last of them prints. -/
structure ToolChain where
  source : CoverageSource
  stages : List Stage
  read : CommandResult → CoverageReport

namespace ToolChain

/-- Tests are built, run, their profiles merged and reported. Tests that fail leave profiles as well. -/
def llvm : ToolChain where
  source := .llvm
  stages :=
    [⟨"cargo test --no-run", "cargo", fun e => e.result.exitCode = 0 ∧ TestExecutables.ofOutput e.result.stdout ≠ []⟩,
      ⟨"cargo test", "cargo", fun e => e.profiles ≠ []⟩, ⟨"llvm-profdata", "llvm-profdata", fun e => e.result.exitCode = 0⟩,
      ⟨"llvm-cov", "llvm-cov", fun e => e.result.exitCode = 0⟩]
  read := fun r => .ofRegions r.stdout

def grcov : ToolChain where
  source := .grcov
  stages := [⟨"grcov", "grcov", fun e => e.result.exitCode = 0⟩]
  read := fun r => .ofFileList r.stdout

def tarpaulin : ToolChain where
  source := .tarpaulin
  stages := [⟨"cargo tarpaulin", "cargo", fun e => e.result.exitCode = 0⟩]
  read := fun r => .ofSummary (r.stdout ++ "\n" ++ r.stderr)

/-- The tool chains in the order of preference. -/
def all : List ToolChain := [llvm, grcov, tarpaulin]

end ToolChain

/-- How a tool chain ends: the time is up, a tool has not done what it is there for, or the last one has. -/
inductive Ending where
  | late
  | unusable
  | finished (last : CommandResult)

/-- What the sampling of a tool chain comes to. -/
def Ending.outcome (read : CommandResult → CoverageReport) : Ending → Except Unit (Option CoverageReport)
  | late => .error ()
  | unusable => .ok none
  | finished last => .ok (some (read last))

/-- A tool chain that was tried. -/
structure Try where
  chain : ToolChain
  started : List Started
  ending : Ending

/-- Whether a request is for the project. The empty path names no file. -/
def AsksProject (asked : Option String) : Prop := ∀ file, asked = some file → file = ""

/-- What percentage a report tells. A file has that of its own entry, and the project's total when it has none; a project has its total,
and the mean over its files when there is no total. -/
inductive Tells (r : CoverageReport) : Option String → Figure → Prop
  | own {file : String} {percent : Figure} (hfile : file ≠ "") (hown : r.ofFile? file = some percent) : Tells r (some file) percent
  | unlisted {file : String} {x : Number} (hfile : file ≠ "") (hown : r.ofFile? file = none) (htotal : r.totalPercent = some x) :
      Tells r (some file) (.number x)
  | total {asked : Option String} {x : Number} (hasked : AsksProject asked) (htotal : r.totalPercent = some x) :
      Tells r asked (.number x)
  | mean {asked : Option String} (hasked : AsksProject asked) (htotal : r.totalPercent = none) (hfiles : r.byFile ≠ []) :
      Tells r asked (.number (Number.sum r.byFile.values / Number.ofNat r.byFile.length))

/-- The report of a chain that was run to its end, and the percentage that it tells. -/
inductive Try.Gives (asked : Option String) (t : Try) : CoverageReport → Figure → Prop
  | finished {last : CommandResult} {percent : Figure} (hending : t.ending = .finished last)
      (htells : Tells (t.chain.read last) asked percent) : Gives asked t (t.chain.read last) percent

/-- Between two tools nothing is changed but the disk and the log. What tools keep to themselves is as it was, so a tool that counts
its starts shows that there are no others. -/
def Quiet (w w' : World η) : Prop := w' = { w with disk := w'.disk, log := w'.log }

/-- A tool is started with the time that is left when the clock is read. -/
structure Setup.Starts (s : Setup η) (stage : Stage) (e : Started) (w w' : World η) : Prop where
  tool : e.tool = stage.tool
  command : e.call.command = stage.command
  inTime : e.time < s.deadline
  remaining : e.call.timeoutMs = some (s.deadline - e.time)
  ran : ∃ v, s.clock.run w = (.ok e.time, v) ∧ (s.tools e.call).run v = (.ok e.result, w')
  profiles : e.profiles = profilesIn s.coverageDir w'.disk

/-- How the tools of a chain are started one after the other, from one world to another. -/
inductive Setup.Runs (s : Setup η) : List Stage → List Started → Ending → World η → World η → Prop
  | late {stage : Stage} {rest : List Stage} {time : Instant} {w v w' : World η} (hquiet : Quiet w v)
      (hclock : s.clock.run v = (.ok time, w')) (hlate : s.deadline ≤ time) : Runs s (stage :: rest) [] .late w w'
  | unusable {stage : Stage} {rest : List Stage} {e : Started} {w v w' : World η} (hquiet : Quiet w v)
      (hstart : s.Starts stage e v w') (hdone : stage.done e = false) : Runs s (stage :: rest) [e] .unusable w w'
  | last {stage : Stage} {e : Started} {w v w' : World η} (hquiet : Quiet w v)
      (hstart : s.Starts stage e v w') (hdone : stage.done e = true) : Runs s [stage] [e] (.finished e.result) w w'
  | next {stage following : Stage} {rest : List Stage} {e : Started} {started : List Started} {ending : Ending} {w v u w' : World η}
      (hquiet : Quiet w v) (hstart : s.Starts stage e v u) (hdone : stage.done e = true)
      (hrest : Runs s (following :: rest) started ending u w') : Runs s (stage :: following :: rest) (e :: started) ending w w'

/-- How tool chains are tried one after the other: one that gives a percentage is the last, and so is one that is late. -/
inductive Setup.Tries (s : Setup η) (file : Option String) : List ToolChain → List Try → World η → World η → Prop
  | exhausted {w w' : World η} (hquiet : Quiet w w') : Tries s file [] [] w w'
  | last {t : Try} {rest : List ToolChain} {w v w' : World η} (hrun : s.Runs t.chain.stages t.started t.ending w v)
      (hquiet : Quiet v w') (hlast : t.ending = .late ∨ ∃ report percent, t.Gives file report percent) :
      Tries s file (t.chain :: rest) [t] w w'
  | next {t : Try} {rest : List ToolChain} {tries : List Try} {w v u w' : World η}
      (hrun : s.Runs t.chain.stages t.started t.ending w v) (hquiet : Quiet v u) (hlate : t.ending ≠ .late)
      (hunusable : ∀ report percent, ¬t.Gives file report percent) (hrest : Tries s file rest tries u w') :
      Tries s file (t.chain :: rest) (t :: tries) w w'

namespace Quiet

theorem refl (w : World η) : Quiet w w := rfl

/-- A quiet change behind a quiet one is quiet. -/
theorem trans {w v u : World η} (h : Quiet w v) (h' : Quiet v u) : Quiet w u := by
  unfold Quiet at *
  rw [h', h]

theorem log (level : LogLevel) (message : String) (fields : List (String × Json)) (w : World η) :
    Quiet w { w with log := w.log ++ [⟨level, message, fields⟩] } := rfl

theorem disk (d : Disk) (w : World η) : Quiet w { w with disk := d } := rfl

end Quiet

/-- Tools run alike when nothing but a quiet change came before. -/
theorem Setup.Runs.of_quiet {s : Setup η} {stages : List Stage} {started : List Started} {ending : Ending} {w v w' : World η}
    (h : s.Runs stages started ending v w') (hquiet : Quiet w v) : s.Runs stages started ending w w' := by
  cases h with
  | late hquiet' hclock hlate => exact .late (hquiet.trans hquiet') hclock hlate
  | unusable hquiet' hstart hdone => exact .unusable (hquiet.trans hquiet') hstart hdone
  | last hquiet' hstart hdone => exact .last (hquiet.trans hquiet') hstart hdone
  | next hquiet' hstart hdone hrest => exact .next (hquiet.trans hquiet') hstart hdone hrest

/-! ## Sampling -/

/-- Sampling ends with an outcome, and the tools it has started are written down behind those before. -/
def RanTo (x : Sampling η α) (started : List Started) (outcome : Except Unit α) (w w' : World η) : Prop :=
  ∀ attempts, Action.run ((x.run).run attempts) w = (.ok (outcome, attempts ++ started.map Started.attempt), w')

namespace RanTo

variable {w v w' : World η} {started : List Started}

theorem pure (x : α) (w : World η) : RanTo (Pure.pure x : Sampling η α) [] (.ok x) w w := by
  intro attempts
  rw [List.map_nil, List.append_nil]
  rfl

/-- An action that succeeds starts no tool. -/
theorem act {a : Action η α} {x : α} (h : a.run w = (.ok x, w')) : RanTo (act a) [] (.ok x) w w' := by
  intro attempts
  rw [List.map_nil, List.append_nil]
  show Action.run ((a >>= fun x => Pure.pure (x, attempts)) >>= fun ended => Pure.pure (Except.ok ended.1, ended.2)) w = _
  rw [Action.run_bind, Action.run_bind, h]
  rfl

/-- Sampling goes on with what is written down so far, unless it has given up. -/
theorem run_bind (a : Sampling η α) (f : α → Sampling η β) (attempts : List CoverageAttempt) :
    ((a >>= f).run).run attempts = ((a.run).run attempts >>= fun ended => match ended with
      | (.ok x, attempts) => ((f x).run).run attempts
      | (.error e, attempts) => Pure.pure (.error e, attempts)) := by
  show ((a.run).run attempts >>= fun ended => (ExceptT.bindCont f ended.1).run ended.2) = _
  congr 1
  funext ended
  obtain ⟨outcome, attempts⟩ := ended
  cases outcome with
  | ok x => rfl
  | error e => rfl

/-- Tools that are started one behind the other are written down in that order. -/
theorem bind {a : Sampling η α} {f : α → Sampling η β} {x : α} {m : List Started} {outcome : Except Unit β}
    (ha : RanTo a started (.ok x) w v) (hf : RanTo (f x) m outcome v w') : RanTo (a >>= f) (started ++ m) outcome w w' := by
  intro attempts
  rw [run_bind, Action.run_bind, ha attempts, List.map_append, ← List.append_assoc]
  exact hf _

end RanTo

/-- Whether an action ends with a result, and leaves the directory for profiles where it is. A tool that exits with another code than
zero, is missing or takes too long has a result as well. -/
def Answers (directory : String) (a : Action η α) : Prop :=
  ∀ w, ∃ x w', a.run w = (.ok x, w') ∧ (w.disk.isDirectory directory = true → w'.disk.isDirectory directory = true)

section Tools

variable {s : Setup η} {w v w' : World η} {time : Instant} {args : List String} {env : List (String × String)}

/-- A tool that is started in time is written down. -/
theorem RanTo.start {e : Started} (hclock : s.clock.run w = (.ok e.time, v)) (htime : e.time < s.deadline)
    (hcall : e.call = { command := e.call.command, args, cwd := some s.root, env, timeoutMs := some (s.deadline - e.time) })
    (htool : (s.tools e.call).run v = (.ok e.result, w')) :
    RanTo (s.start e.tool e.call.command args env) [e] (.ok e.result) w w' := by
  have hwritten : RanTo (modify (· ++ [e.attempt]) : Sampling η PUnit) [e] (.ok ⟨⟩) w' w' := fun attempts => rfl
  rw [hcall] at htool
  unfold Setup.start
  refine (RanTo.act hclock).bind (m := [e]) ?_
  rw [if_neg (Int.not_le.mpr htime)]
  exact (RanTo.act htool).bind (m := [e]) (hwritten.bind (m := []) (RanTo.pure e.result w'))

end Tools

/-! ## Tool chains -/

/-- Sampling with a chain of tools goes as the chain does, and comes to what the chain ends in. -/
def Setup.Samples (s : Setup η) (read : CommandResult → CoverageReport) (stages : List Stage)
    (x : Sampling η (Option CoverageReport)) (w : World η) : Prop :=
  ∃ started ending v w', s.Runs stages started ending w v ∧ Quiet v w' ∧ RanTo x started (ending.outcome read) w w'

/-- What sampling does after a tool: it gives up, has its report, or goes on to the next tool. -/
inductive Setup.GoesOn (s : Setup η) (read : CommandResult → CoverageReport) (stage : Stage) (e : Started) :
    List Stage → Sampling η (Option CoverageReport) → World η → Prop
  | unusable {rest : List Stage} {x : Sampling η (Option CoverageReport)} {w w' : World η} (hdone : stage.done e = false)
      (hquiet : Quiet w w') (hran : RanTo x [] (.ok none) w w') : GoesOn s read stage e rest x w
  | last {x : Sampling η (Option CoverageReport)} {w w' : World η} (hdone : stage.done e = true)
      (hquiet : Quiet w w') (hran : RanTo x [] (.ok (some (read e.result))) w w') : GoesOn s read stage e [] x w
  | next {following : Stage} {rest : List Stage} {x : Sampling η (Option CoverageReport)} {w : World η}
      (hdone : stage.done e = true) (hrest : s.Samples read (following :: rest) x w) : GoesOn s read stage e (following :: rest) x w

section Chains

variable {s : Setup η} {read : CommandResult → CoverageReport} {stage : Stage} {stages : List Stage} {w v : World η}

/-- A quiet change may come before. -/
theorem Setup.Samples.after {a : Action η α} {x : α} {f : α → Sampling η (Option CoverageReport)}
    (h : s.Samples read stages (f x) v) (ha : a.run w = (.ok x, v)) (hquiet : Quiet w v) :
    s.Samples read stages (act a >>= f) w := by
  obtain ⟨started, ending, u, w', hruns, hquiet', hran⟩ := h
  exact ⟨started, ending, u, w', hruns.of_quiet hquiet, hquiet', (RanTo.act ha).bind hran⟩

/-- A quiet action may come between a tool and what follows on it. -/
theorem Setup.GoesOn.after {e : Started} {a : Action η α} {x : α} {f : α → Sampling η (Option CoverageReport)}
    (h : s.GoesOn read stage e stages (f x) v) (ha : a.run w = (.ok x, v)) (hquiet : Quiet w v) :
    s.GoesOn read stage e stages (act a >>= f) w := by
  cases h with
  | unusable hdone hquiet' hran => exact .unusable hdone (hquiet.trans hquiet') ((RanTo.act ha).bind hran)
  | last hdone hquiet' hran => exact .last hdone (hquiet.trans hquiet') ((RanTo.act ha).bind hran)
  | next hdone hrest => exact .next hdone (hrest.after ha hquiet)

variable (htools : ∀ call, Answers s.coverageDir (s.tools call)) (hclock : Answers s.coverageDir s.clock)
include htools hclock

end Chains

/-! ## Percentages -/

section Percentages

variable {asked : Option String} {r : CoverageReport} {percent : Figure} {t : Try} {report : CoverageReport}

/-- A request for the project names no file, even if it has an empty path. -/
theorem filter_eq_none_of_asksProject (h : AsksProject asked) : asked.filter (· ≠ "") = none := by
  cases asked with
  | none => rfl
  | some file =>
    rw [h file rfl]
    rfl

/-- The percentage for a project is that of the report, unless this tells nothing at all. -/
theorem percentOf?_of_asksProject (h : AsksProject asked) :
    percentOf? asked r = if r.byFile.isEmpty ∧ r.totalPercent.isNone then none else some (.number r.project) := by
  unfold percentOf?
  rw [filter_eq_none_of_asksProject h]

/-- The percentage for a file is its own, or the total. -/
theorem percentOf?_some {file : String} (h : file ≠ "") : percentOf? (some file) r = r.ofFileOrTotal? file := by
  have hnamed : (some file).filter (fun name => decide (name ≠ "")) = some file := Option.filter_some_pos (decide_eq_true h)
  unfold percentOf?
  rw [hnamed]

/-- Without a total the percentage of a project is the mean over its files. -/
theorem project_eq_mean (htotal : r.totalPercent = none) (hfiles : r.byFile ≠ []) :
    r.project = Number.sum r.byFile.values / Number.ofNat r.byFile.length := by
  have hvalues : r.byFile.values.isEmpty = false := by
    rw [Record.values, List.isEmpty_map]
    exact List.isEmpty_eq_false_iff.mpr hfiles
  unfold CoverageReport.project
  rw [htotal]
  dsimp only
  rw [hvalues, if_neg Bool.false_ne_true, Record.values, List.length_map]

/-- What is taken from a report for the project is its total, or the mean over its files. -/
theorem tells_of_asksProject (hasked : AsksProject asked) (h : percentOf? asked r = some percent) : Tells r asked percent := by
  rw [percentOf?_of_asksProject hasked] at h
  split at h
  · cases h
  · rename_i hany
    obtain rfl := Option.some.inj h
    cases htotal : r.totalPercent with
    | some x =>
      rw [CoverageReport.project, htotal]
      exact .total hasked htotal
    | none =>
      have hfiles : r.byFile ≠ [] := fun hnil => hany ⟨List.isEmpty_iff.mpr hnil, Option.isNone_iff_eq_none.mpr htotal⟩
      rw [project_eq_mean htotal hfiles]
      exact .mean hasked htotal hfiles

/-- What is taken from a report for a file is that of its own entry, or the total. -/
theorem tells_of_file {file : String} (hfile : file ≠ "") (h : percentOf? (some file) r = some percent) : Tells r (some file) percent := by
  rw [percentOf?_some hfile, CoverageReport.ofFileOrTotal?] at h
  cases hown : r.ofFile? file with
  | some own =>
    rw [hown] at h
    obtain rfl := Option.some.inj h
    exact .own hfile hown
  | none =>
    rw [hown] at h
    obtain ⟨x, htotal, rfl⟩ := Option.map_eq_some_iff.mp h
    exact .unlisted hfile hown htotal

/-- What a sampler takes from a report is what the report tells. -/
theorem percentOf?_eq_some_iff : percentOf? asked r = some percent ↔ Tells r asked percent := by
  refine ⟨fun h => ?_, fun h => ?_⟩
  · by_cases hasked : AsksProject asked
    · exact tells_of_asksProject hasked h
    · obtain ⟨file, rfl, hfile⟩ : ∃ file, asked = some file ∧ file ≠ "" := by
        unfold AsksProject at hasked
        push Not at hasked
        exact hasked
      exact tells_of_file hfile h
  · cases h with
    | own hfile hown =>
      rw [percentOf?_some hfile, CoverageReport.ofFileOrTotal?, hown]
      rfl
    | unlisted hfile hown htotal =>
      rw [percentOf?_some hfile, CoverageReport.ofFileOrTotal?, hown, htotal]
      rfl
    | total hasked htotal =>
      rw [percentOf?_of_asksProject hasked, htotal, CoverageReport.project, htotal, if_neg fun h => nomatch h.2]
    | mean hasked htotal hfiles =>
      rw [percentOf?_of_asksProject hasked, if_neg fun h => hfiles (List.isEmpty_iff.mp h.1), project_eq_mean htotal hfiles]

/-- The report of a chain that was run to its end, and the percentage that is taken from it. -/
def Try.usable? (file : Option String) (t : Try) : Option (CoverageReport × Figure) :=
  match t.ending with
  | .finished last => (percentOf? file (t.chain.read last)).map (t.chain.read last, ·)
  | .late => none
  | .unusable => none

/-- A try is of use when its chain has a report that tells a percentage, and with these two. -/
theorem Try.usable?_eq_some_iff : t.usable? asked = some (report, percent) ↔ t.Gives asked report percent := by
  unfold Try.usable?
  constructor
  · intro h
    split at h
    · rename_i last hending
      obtain ⟨taken, htaken, heq⟩ := Option.map_eq_some_iff.mp h
      obtain ⟨rfl, rfl⟩ := Prod.mk.inj heq
      exact .finished hending (percentOf?_eq_some_iff.mp htaken)
    · cases h
    · cases h
  · rintro ⟨hending, htells⟩
    rw [hending]
    dsimp only
    rw [percentOf?_eq_some_iff.mpr htells]
    rfl

/-- A try is of no use when its chain gives no percentage. -/
theorem Try.usable?_eq_none_iff : t.usable? asked = none ↔ ∀ report percent, ¬t.Gives asked report percent := by
  rw [Option.eq_none_iff_forall_ne_some]
  exact ⟨fun h report percent hgives => h (report, percent) (usable?_eq_some_iff.mpr hgives),
    fun h found heq => h found.1 found.2 (usable?_eq_some_iff.mp heq)⟩

end Percentages

/-! ## Tries -/

/-- The measurement that tries come to: that of the first one with a percentage, or none. -/
def measured (file : Option String) (tries : List Try) (attempts : List CoverageAttempt) : CoverageMeasurement :=
  match tries.findSome? fun t => (t.usable? file).map (t.chain.source, ·) with
  | some (source, report, percent) => ⟨source, file, percent, report, attempts⟩
  | none => unmeasured file attempts

section Trying

variable {s : Setup η} {file : Option String} {w w' : World η}

/-- The first try of use makes the measurement. -/
theorem measured_cons_of_usable {t : Try} {report : CoverageReport} {percent : Figure} (h : t.usable? file = some (report, percent))
    (tries : List Try) (attempts : List CoverageAttempt) :
    measured file (t :: tries) attempts = ⟨t.chain.source, file, percent, report, attempts⟩ := by
  rw [measured, List.findSome?_cons, h]
  rfl

/-- A try of no use leaves the measurement to those behind it. -/
theorem measured_cons_of_unusable {t : Try} (h : t.usable? file = none) (tries : List Try) (attempts : List CoverageAttempt) :
    measured file (t :: tries) attempts = measured file tries attempts := by
  rw [measured, List.findSome?_cons, h]
  rfl

section Steps

variable {source : CoverageSource} {sample : Sampling η (Option CoverageReport)}
  {samples : List (CoverageSource × Sampling η (Option CoverageReport))} {started : List Started} {report : Option CoverageReport}

end Steps

/-- Every tool of a chain is started in time, with the time that is left. -/
theorem Setup.Runs.inTime {stages : List Stage} {started : List Started} {ending : Ending}
    (h : s.Runs stages started ending w w') :
    ∀ e ∈ started, e.time < s.deadline ∧ e.call.timeoutMs = some (s.deadline - e.time) := by
  induction h with
  | late => exact fun e he => absurd he List.not_mem_nil
  | unusable hquiet hstart =>
    rintro e (_ | ⟨_, he⟩)
    · exact ⟨hstart.inTime, hstart.remaining⟩
    · exact absurd he List.not_mem_nil
  | last hquiet hstart =>
    rintro e (_ | ⟨_, he⟩)
    · exact ⟨hstart.inTime, hstart.remaining⟩
    · exact absurd he List.not_mem_nil
  | next hquiet hstart hdone hrest ih =>
    rintro e (_ | ⟨_, he⟩)
    · exact ⟨hstart.inTime, hstart.remaining⟩
    · exact ih e he

/-- All tools are started before the deadline, each with the time that is left. -/
theorem Setup.Tries.inTime {chains : List ToolChain} {tries : List Try} (h : s.Tries file chains tries w w') :
    ∀ t ∈ tries, ∀ e ∈ t.started, e.time < s.deadline ∧ e.call.timeoutMs = some (s.deadline - e.time) := by
  induction h with
  | exhausted => exact fun t ht => absurd ht List.not_mem_nil
  | last hrun =>
    rintro t (_ | ⟨_, ht⟩)
    · exact hrun.inTime
    · exact absurd ht List.not_mem_nil
  | next hrun hquiet hlate hunusable hrest ih =>
    rintro t (_ | ⟨_, ht⟩)
    · exact hrun.inTime
    · exact ih t ht

/-- The chains are tried in order, and none is passed over. -/
theorem Setup.Tries.ordered {chains : List ToolChain} {tries : List Try} (h : s.Tries file chains tries w w') :
    tries.map (·.chain) <+: chains := by
  induction h with
  | exhausted => exact List.prefix_rfl
  | last hrun => exact (List.prefix_cons_inj _).mpr List.nil_prefix
  | next hrun hquiet hlate hunusable hrest ih => exact (List.prefix_cons_inj _).mpr ih

/-- Tries end with the first one that gives a percentage, or when there are no more chains or there is no more time. -/
theorem Setup.Tries.first {chains : List ToolChain} {tries : List Try} (h : s.Tries file chains tries w w')
    (attempts : List CoverageAttempt) :
    (∃ earlier t report percent, tries = earlier ++ [t] ∧ (∀ u ∈ earlier, ∀ report percent, ¬u.Gives file report percent) ∧
      t.Gives file report percent ∧
      measured file tries attempts = ⟨t.chain.source, file, percent, report, attempts⟩) ∨
    (∀ t ∈ tries, ∀ report percent, ¬t.Gives file report percent) ∧ (tries.map (·.chain) = chains ∨ ∃ t ∈ tries, t.ending = .late) ∧
      measured file tries attempts = unmeasured file attempts := by
  induction h with
  | exhausted => exact .inr ⟨fun t ht => absurd ht List.not_mem_nil, .inl rfl, rfl⟩
  | @last t rest w v w' hrun hquiet hlast =>
    cases husable : t.usable? file with
    | some found =>
      obtain ⟨report, percent⟩ := found
      exact .inl ⟨[], t, report, percent, rfl, fun u hu => absurd hu List.not_mem_nil, Try.usable?_eq_some_iff.mp husable,
        measured_cons_of_usable husable [] attempts⟩
    | none =>
      have hnone := Try.usable?_eq_none_iff.mp husable
      have hlate : t.ending = .late := hlast.resolve_right fun ⟨report, percent, hgives⟩ => hnone report percent hgives
      refine .inr ⟨fun u hu => ?_, .inr ⟨t, List.mem_cons_self, hlate⟩, measured_cons_of_unusable husable [] attempts⟩
      rw [List.mem_singleton.mp hu]
      exact hnone
  | @next t rest tries w v u w' hrun hquiet hlate hunusable hrest ih =>
    rw [measured_cons_of_unusable (Try.usable?_eq_none_iff.mpr hunusable)]
    rcases ih with ⟨earlier, last, report, percent, rfl, hearlier, husable, hmeasured⟩ | ⟨hnone, hend, hmeasured⟩
    · exact .inl ⟨t :: earlier, last, report, percent, rfl, List.forall_mem_cons.mpr ⟨hunusable, hearlier⟩, husable, hmeasured⟩
    · refine .inr ⟨List.forall_mem_cons.mpr ⟨hunusable, hnone⟩, ?_, hmeasured⟩
      rcases hend with hall | ⟨late, hmem, hlate⟩
      · exact .inl (congrArg (t.chain :: ·) hall)
      · exact .inr ⟨late, List.mem_cons_of_mem _ hmem, hlate⟩

end Trying

/-! ## Measurements -/

end QualityGate.Coverage
