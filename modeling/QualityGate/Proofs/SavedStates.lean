import QualityGate.Proofs.Instants
import QualityGate.Proofs.Invariants
import QualityGate.Proofs.ProgressFigures

/-!
# What a run saves, the next run loads

A run that begins with a state whose start can be read as a time, and whose progress has only finite numbers, keeps it so whatever it
does, and such a state is read as it was written. From any other state there is a run that saves what the next one throws away
(`savesReadable_iff`): without a time of the start no number of minutes remains, and what is no finite number is written as null.
-/

namespace QualityGate

open Refactor RunAction

namespace RefactorState

/-- Whether the completed files are no more than a list in memory can hold. -/
def Fits (s : RefactorState) : Prop := s.filesCompleted.length < 2 ^ 32

/-- Whether the start of the work can be read as a time. -/
def Dated (s : RefactorState) : Prop := (Instant.ofText? s.startTime).isSome

/-- What each note that a run takes keeps of its state. -/
structure Lasting (s : RefactorState) : Prop where
  sound : s.Sound
  dated : s.Dated
  progress : s.Fits → s.progress.Sound

end RefactorState

namespace Instant

/-- A time that is read from a text has a date. -/
theorem inRange_of_ofText? {text : String} {zone : Zone} {t : Instant} (h : ofText? text zone = some t) : inRange t := by
  obtain ⟨draft, -, hdraft⟩ := Option.bind_eq_some_iff.mp h
  unfold Draft.instant? at hdraft
  obtain ⟨date, -, hdate⟩ := Option.bind_eq_some_iff.mp hdraft
  obtain ⟨time, -, htime⟩ := Option.bind_eq_some_iff.mp hdate
  dsimp only at htime
  split at htime
  · rename_i hrange
    exact Option.some.inj htime ▸ hrange
  · cases htime

/-- A time that has a date is within a hundred million days. -/
theorem abs_le_of_inRange {t : Instant} (h : inRange t) : |(t : Int)| ≤ 8640000000000000 := by
  unfold inRange at h
  obtain ⟨hlow, hhigh⟩ := Bool.and_eq_true_iff.mp h
  exact abs_le.mpr ⟨of_decide_eq_true hlow, of_decide_eq_true hhigh⟩

end Instant

/-! ## Notes that keep a state loadable -/

namespace RefactorState

variable {s : RefactorState} {cfg : RunConfig} {now : Instant}

/-- Between two instants there are finitely many seconds. -/
theorem bounded_elapsedSeconds (hdated : s.Dated) (hnow : Instant.inRange now) :
    Number.Bounded 54 (elapsedSeconds s.startTime now) := by
  obtain ⟨start, hstart⟩ := Option.isSome_iff_exists.mp hdated
  have hmillis : Number.Bounded 54 (Number.ofInt (now - start)) := by
    have hdifference : |(now - start : Int)| ≤ 2 ^ 54 := by
      have hfirst := Instant.abs_le_of_inRange hnow
      have hsecond := Instant.abs_le_of_inRange (Instant.inRange_of_ofText? hstart)
      exact (abs_sub (now : Int) start).trans (by linarith)
    exact Number.bounded_ofRat (by decide) (by exact_mod_cast hdifference)
  have hthousand : (1000 : Number) = .finite (1000 : Nat) := Number.ofNat_eq (by decide)
  unfold elapsedSeconds
  rw [hstart]
  dsimp only
  rw [hthousand]
  exact @Number.Bounded.div _ 0 54 hmillis _ (by norm_num) (by decide)

/-- The note of the progress leaves a state sound. -/
theorem Sound.withProgress (h : s.Sound) (phase : Phase) : (withProgress cfg now phase s).Sound := by
  unfold Refactor.withProgress
  exact ⟨h.iteration, h.distinct, h.qualityMetrics, h.satdBaseline, h.lastMetrics⟩

/-- The note of sound metrics leaves a state sound. -/
theorem Sound.measured (h : s.Sound) {metrics : Metrics} (hmetrics : metrics.Sound) : (measured metrics s).Sound where
  iteration := h.iteration.add_one
  distinct := h.distinct
  qualityMetrics := hmetrics
  satdBaseline := h.satdBaseline.max (hmetrics.counts _ (by simp [Metrics.counts]))
  lastMetrics := h.lastMetrics

/-- As many files as fit are a count. -/
theorem Fits.isCount (h : s.Fits) : (Number.ofNat s.filesCompleted.length).IsCount := by
  have hlength : s.filesCompleted.length ≤ 2 ^ 53 := by
    unfold Fits at h
    omega
  exact Number.isCount_ofNat (congrArg Number.isFinite (Number.ofNat_eq hlength))

/-- The note of the progress completes no file. -/
theorem Fits.withProgress (h : s.Fits) (phase : Phase) : (Refactor.withProgress cfg now phase s).Fits := by
  unfold Fits Refactor.withProgress
  exact h

/-- The note of the progress leaves figures that last, as the start and the present have dates. -/
theorem lasting_withProgress (hsound : s.Sound) (hdated : s.Dated) (hnow : Instant.inRange now) (phase : Phase) :
    (Refactor.withProgress cfg now phase s).Lasting where
  sound := hsound.withProgress phase
  dated := by
    unfold Dated Refactor.withProgress
    exact hdated
  progress hfits := by
    unfold Fits Refactor.withProgress at hfits
    exact @Progress.sound_of_computeProgress ⟨s.qualityMetrics, cfg.profile, s.satdBaseline, .ofNat s.filesCompleted.length,
      elapsedSeconds s.startTime now, some phase⟩ hsound.qualityMetrics (Fits.isCount hfits) (bounded_elapsedSeconds hdated hnow)

/-- When the start cannot be read as a time, the progress that is noted down has a number that is none. -/
theorem nan_mem_withProgress (h : ¬s.Dated) (phase : Phase) : .nan ∈ (Refactor.withProgress cfg now phase s).progress.amounts := by
  have hstart : Instant.ofText? s.startTime = none := Option.not_isSome_iff_eq_none.mp h
  have hseconds : elapsedSeconds s.startTime now = .nan := by
    unfold elapsedSeconds
    rw [hstart]
  unfold Refactor.withProgress
  rw [hseconds]
  simp only [Progress.amounts, computeProgress, remainingMinutes_nan, List.mem_cons, true_or, or_true]

/-- The note of sound metrics lasts. -/
theorem Lasting.measured (h : s.Lasting) {metrics : Metrics} (hmetrics : metrics.Sound) : (Refactor.measured metrics s).Lasting where
  sound := h.sound.measured hmetrics
  dated := h.dated
  progress := h.progress

/-- The note of a choice lasts. -/
theorem Lasting.turned (h : s.Lasting) {metrics : Metrics} (hmetrics : metrics.Sound) (file : String) :
    { s with currentFile := some file, lastTarget := some file, lastMetrics := some metrics : RefactorState }.Lasting where
  sound := ⟨h.sound.iteration, h.sound.distinct, h.sound.qualityMetrics, h.sound.satdBaseline, fun _ heq => Option.some.inj heq ▸ hmetrics⟩
  dated := h.dated
  progress := h.progress

/-- The note of a completed file lasts, as it is noted once. -/
theorem Lasting.completed (h : s.Lasting) {file : String} (hfile : s.filesCompleted.contains file = false) :
    { s with filesCompleted := s.filesCompleted ++ [file] : RefactorState }.Lasting where
  sound := by
    refine ⟨h.sound.iteration, ?_, h.sound.qualityMetrics, h.sound.satdBaseline, h.sound.lastMetrics⟩
    have hfresh : file ∉ s.filesCompleted := by simpa using hfile
    exact List.nodup_append.mpr ⟨h.sound.distinct, List.pairwise_singleton _ _,
      fun a ha b hb heq => hfresh (List.mem_singleton.mp hb ▸ heq ▸ ha)⟩
  dated := h.dated
  progress hfits := h.progress (by
    unfold Fits at hfits ⊢
    rw [List.length_append] at hfits
    omega)

end RefactorState

/-! ## Whole runs -/

variable {η : Type}

/-- Whether a gauge shows counts that are not negative, and a coverage in percent. -/
def QualityGauge.Sound (gauge : QualityGauge η) : Prop :=
  ∀ w sample w', gauge.measure.run w = (.ok sample, w') → sample.metrics.Sound

/-- Whether the clock shows a time that has a date. -/
def InTime (_ : Run) (w : World η) : Prop := Instant.inRange w.clock

/-- Whether the state of a run is one that lasts, at a time that has a date. -/
def LastingAt (r : Run) (w : World η) : Prop := Instant.inRange w.clock ∧ r.state.Lasting

namespace LastingAt

variable {who : Collaborators η} {cfg : RunConfig}

theorem updateProgress (phase : Phase) : Maintains LastingAt (Refactor.updateProgress cfg phase : RunAction η Unit) :=
  ⟨fun _ _ hr => ⟨hr.1, RefactorState.lasting_withProgress hr.2.sound hr.2.dated hr.1 phase⟩⟩

theorem changeState {f : RefactorState → RefactorState} (h : ∀ s, s.Lasting → (f s).Lasting) :
    Maintains LastingAt (RunAction.changeState f : RunAction η Unit) := Ensures.change fun _ _ hr => ⟨hr.1, h _ hr.2⟩

/-- The turn to a file leaves a state that lasts. -/
theorem turnTo (h : Steady who LastingAt) {sample : QualitySample} (hsample : sample.metrics.Sound) (target : Target) :
    Maintains LastingAt (Refactor.turnTo who cfg sample target) :=
  h.surveying.turnTo updateProgress (changeState fun _ hs => hs.turned hsample target.file)

/-- The end of the work on a target leaves a state that lasts. -/
theorem concludeTarget (h : Steady who LastingAt) (file : String) : Maintains LastingAt (Refactor.concludeTarget who cfg file) := by
  unfold Refactor.concludeTarget
  refine (h.measureFile file).bind fun sample => ?_
  split
  · refine Ensures.run_bind fun seen => ?_
    dsimp only
    split
    · rename_i hnew
      have hfresh : seen.state.filesCompleted.contains file = false := by simpa using hnew
      refine Ensures.changeState_bind ?_ (updateProgress _)
      rintro _ w ⟨hr, rfl⟩
      exact ⟨hr.1, hr.2.completed hfresh⟩
    · exact Ensures.pure fun _ _ hr => hr.1
  · exact h.act (.log _ _ _)

/-- A run keeps a state that lasts. -/
theorem invariant (htime : Steady who InTime) (hgauge : who.gauge.Sound) : Invariant who cfg LastingAt := by
  have h : Steady who LastingAt := htime.withState RefactorState.Lasting
  have hsurvey : Ensures LastingAt (survey who cfg) (Surveyed LastingAt fun sample _ => sample.metrics.Sound) :=
    h.survey (changeState fun s hs => ⟨⟨hs.sound.iteration, hs.sound.distinct, hs.sound.qualityMetrics, hs.sound.satdBaseline,
      hs.sound.lastMetrics⟩, hs.dated, hs.progress⟩) hgauge (fun _ hsample => changeState fun _ hs => hs.measured hsample)
      updateProgress fun _ _ _ _ _ hsample _ => hsample
  exact
    { checkCanceled := h.checkCanceled
      count := h.change fun _ => rfl
      iterate := h.iterate hsurvey (fun _ target hsample => turnTo h hsample target) (concludeTarget h)
      save := h.save
      tell := h.tell
      complete := updateProgress _
      enter := h.enter _
      log := fun _ _ _ => h.act (.log _ _ _) }

end LastingAt

namespace StateStore

/-- Whether the next run reads a state as it was written. -/
def ReadsBack (s : RefactorState) : Prop := read (textOf (encode s)) = .state s

end StateStore

open StateStore (ReadsBack)

/-- Whether all that a run saves is read as it was written: the run is the same when any other state is saved in any other way. -/
def SavesReadable (who : Collaborators η) (cfg : RunConfig) (w : World η) : Prop :=
  ∀ save : RefactorState → Action η Unit, (∀ s, (s.Fits → ReadsBack s) → save s = who.save s) →
    (refactor { who with save } cfg).run w = (refactor who cfg).run w

section Runs

variable {who : Collaborators η} {cfg : RunConfig} {w w' after : World η} {loaded : Option RefactorState}

/-- The state that a first run begins with lasts. -/
theorem RefactorState.lasting_initial (cacheDir : String) {now : Instant} (hnow : Instant.inRange now) :
    (RefactorState.initial cacheDir now).Lasting := by
  have hzero : Number.IsPercent 0 := ⟨0, Number.zero_eq, Number.representable_zero, le_refl _, by norm_num⟩
  have hmetrics : Metrics.empty.Sound := by
    refine ⟨?_, hzero⟩
    simp only [Metrics.counts, List.forall_mem_cons]
    exact ⟨Number.isCount_zero, Number.isCount_zero, Number.isCount_zero, Number.isCount_zero, Number.isCount_zero,
      Number.isCount_zero, Number.isCount_zero, List.forall_mem_nil _⟩
  unfold RefactorState.initial
  refine ⟨⟨Number.isCount_zero, List.nodup_nil, hmetrics, Number.isCount_zero, fun _ heq => ?_⟩, ?_, fun _ => ?_⟩
  · cases heq
  · unfold Dated
    dsimp only
    rw [Instant.ofText?_text hnow]
    rfl
  · have helapsed : Number.Bounded 54 0 := ⟨0, Number.zero_eq, by norm_num⟩
    dsimp only
    exact @Progress.sound_of_computeProgress ⟨Metrics.empty, Profile.extreme, 0, 0, 0, some .initialization⟩ hmetrics
      Number.isCount_zero helapsed

/-- A state that is read lasts when its start can be read as a time and its progress has only finite numbers. -/
theorem RefactorState.lasting_of_read {text : String} {s : RefactorState} (h : StateStore.read text = .state s) (hdated : s.Dated)
    (hfinite : ∀ x ∈ s.progress.amounts, x.isFinite) : s.Lasting := by
  obtain ⟨hsound, hamounts, hcounts⟩ := StateStore.sound_of_read h
  exact ⟨hsound, hdated, fun _ => ⟨fun x hx => Number.isAmount_of_isRounded (hamounts x hx).1 (hfinite x hx), hcounts⟩⟩

theorem RefactorState.Sound.startFrom {s : RefactorState} (h : s.Sound) : (startFrom cfg s).state.Sound :=
  ⟨h.iteration, h.distinct, h.qualityMetrics, h.satdBaseline, h.lastMetrics⟩

/-- A run begins with a state that lasts when it loads one. -/
theorem RefactorState.Lasting.startFrom {s : RefactorState} (h : s.Lasting) : (startFrom cfg s).state.Lasting :=
  ⟨h.sound.startFrom, h.dated, h.progress⟩

/-- A run that begins with a state that lasts saves only what is read as it was written. -/
theorem savesReadable_of_lasting (hload : who.load.run w = (.ok loaded, w')) (htime : Steady who InTime) (hgauge : who.gauge.Sound)
    (hnow : Instant.inRange w'.clock) (h : (loaded.getD (RefactorState.initial cfg.cacheDir w'.clock)).Lasting) :
    SavesReadable who cfg w := by
  intro save hsave
  have hsaves : ∀ r (w : World η), LastingAt r w → save r.state = who.save r.state := fun _ _ hr =>
    hsave _ fun hfits => StateStore.read_textOf hr.2.sound (hr.2.progress hfits)
  have hstart : LastingAt (startFrom cfg (loaded.getD (RefactorState.initial cfg.cacheDir w'.clock))) w' := ⟨hnow, h.startFrom⟩
  rw [refactor_run hload, @refactor_run η { who with save } cfg w w' loaded hload,
    (LastingAt.invariant htime hgauge).wholeRun_save hsaves hstart]

/-- What a run ends with was saved, so it is read as it was written when all that is saved is. -/
theorem readsBack_of_savesReadable {outcome : RefactorOutcome} (h : SavesReadable who cfg w)
    (hload : who.load.run w = (.ok loaded, w')) (hended : (refactor who cfg).run w = (.ok outcome, after)) (hfits : outcome.state.Fits) :
    ReadsBack outcome.state := by
  classical
  let save : RefactorState → Action η Unit := fun s =>
    if s.Fits → ReadsBack s then who.save s else Action.fail (.canceled "unreadable")
  have hguarded := (h save fun s hs => if_pos hs).trans hended
  rw [@refactor_run η { who with save } cfg w w' loaded hload] at hguarded
  rcases hrun : wholeRun { who with save } cfg (startFrom cfg (loaded.getD (RefactorState.initial cfg.cacheDir w'.clock))) w' with
    ⟨⟨result, r⟩, w₁⟩
  rw [hrun] at hguarded
  obtain rfl : result = .ok outcome := (Prod.mk.inj hguarded).1
  obtain ⟨status, r₁, w₂, hfinish⟩ := exists_finish hrun
  obtain ⟨-, w₃, hsaved⟩ := finish_eq_ok hfinish
  by_contra hunreadable
  have hfails : (save outcome.state).run w₃ = (.error (.canceled "unreadable"), w₃) := by
    have hother : save outcome.state = Action.fail (.canceled "unreadable") := if_neg fun hreads => hunreadable (hreads hfits)
    rw [hother, Action.run_fail]
  cases (Prod.mk.inj (hfails.symm.trans hsaved)).1

end Runs

namespace AllMet

/-- A measurement that meets all gates. -/
def sample : QualitySample := { (default : QualitySample) with metrics := { Metrics.empty with coveragePercent := 100 } }

/-- Collaborators that load a state and in whose eyes nothing is left to be done. -/
def who (loaded : Option RefactorState) : Collaborators Unit where
  gauge := { context := pure default, measure := pure sample, measureFile := fun _ => pure default }
  load := pure loaded
  save _ := pure ()
  rewriter _ := pure default
  verifyBuild := pure ⟨true, false, ""⟩
  agent := none
  showProgress _ := pure ()
  showRequest _ := pure ()

def config (maxIterations : Number) : RunConfig :=
  { (default : RunConfig) with projectRoot := "/p", cacheDir := "/c", maxIterations, profile := Profile.extreme }

def world : World Unit := { disk := [], clock := 0, inner := () }

/-- These collaborators leave the clock alone. -/
theorem steady (loaded : Option RefactorState) : Steady (who loaded) InTime where
  congr _ hclock hr := by
    unfold InTime
    rw [hclock]
    exact hr
  context := ⟨fun _ _ hr => hr⟩
  measure := ⟨fun _ _ hr => hr⟩
  measureFile _ := ⟨fun _ _ hr => hr⟩
  save _ := ⟨fun _ _ hr => hr⟩
  rewriter _ := ⟨fun _ _ hr => hr⟩
  verifyBuild := ⟨fun _ _ hr => hr⟩
  agent _ hagent := nomatch hagent
  showProgress _ := ⟨fun _ _ hr => hr⟩
  showRequest _ := ⟨fun _ _ hr => hr⟩
  pause := ⟨fun _ _ hr => hr⟩

/-- The measurement has counts and a percentage. -/
theorem sound_metrics : sample.metrics.Sound := by
  have hhundred : (100 : Number) = .finite (100 : Nat) := Number.ofNat_eq (by decide)
  refine ⟨?_, 100, hhundred, Number.representable_intCast (by decide), by norm_num, le_refl _⟩
  simp only [Metrics.counts, List.forall_mem_cons]
  exact ⟨Number.isCount_zero, Number.isCount_zero, Number.isCount_zero, Number.isCount_zero, Number.isCount_zero, Number.isCount_zero,
    Number.isCount_zero, List.forall_mem_nil _⟩

/-- The gauge shows nothing else. -/
theorem sound_gauge (loaded : Option RefactorState) : (who loaded).gauge.Sound := by
  intro w found w' hmeasure
  obtain rfl := Except.ok.inj (Prod.mk.inj hmeasure).1
  exact sound_metrics

/-- Each context can be written down. -/
theorem exists_written : ∃ d, (Action.writeText (RefactorState.contextPathIn "/c") (default : DeepContext).markdown).run world =
    (.ok (), { world with disk := d }) := by
  have hok : ((Action.writeText (RefactorState.contextPathIn "/c") (default : DeepContext).markdown).run world).1.toOption = some () := by
    decide +kernel
  rcases Action.run_writeText (RefactorState.contextPathIn "/c") (default : DeepContext).markdown world with hrun | ⟨failure, hfails⟩
  · exact ⟨_, hrun⟩
  · rw [hfails] at hok
    cases hok

/-- The run of one iteration where it measures: its context is made. -/
def begun (s : RefactorState) : Run :=
  { startFrom (config 1) { s with contextGenerated := true } with
    iterations := 1, context := some default, contextMarkdown := (default : DeepContext).markdown }

/-- The state of that run behind its measurement. -/
def noted (s : RefactorState) : RefactorState :=
  withProgress (config 1) 0 (phaseOf sample.metrics (config 1).profile) (measured sample.metrics (begun s).state)

/-- The measurement leaves a sound state. -/
theorem sound_noted {s : RefactorState} (h : s.Sound) : (noted s).Sound := by
  have hbegun : (begun s).state.Sound := ⟨h.iteration, h.distinct, h.qualityMetrics, h.satdBaseline, h.lastMetrics⟩
  exact (hbegun.measured sound_metrics).withProgress _

/-- The measurement leaves the start as it is. -/
theorem dated_noted {s : RefactorState} : (noted s).Dated ↔ s.Dated := by
  unfold noted RefactorState.Dated withProgress
  exact Iff.rfl

/-- The measurement completes no file. -/
theorem fits_noted {s : RefactorState} (h : s.Fits) : (noted s).Fits := by
  have hbegun : (measured sample.metrics (begun s).state).Fits := h
  exact hbegun.withProgress _

/-- When the start cannot be read as a time, the run ends with a state that is not read as it was written. -/
theorem not_readsBack {s : RefactorState} (h : s.Sound) (hfits : s.Fits) (hundated : ¬s.Dated) :
    ¬ReadsBack (withProgress (config 1) 0 .complete (noted s)) := by
  intro hback
  have hnan := @RefactorState.nan_mem_withProgress _ (config 1) 0 (fun hdated => hundated (dated_noted.mp hdated)) .complete
  have hrounded : (encode (withProgress (config 1) 0 .complete (noted s)).progress).Rounded :=
    Progress.rounded_of_computeProgress ((sound_noted h).qualityMetrics.counts _ (by simp [Metrics.counts])) (fits_noted hfits).isCount
  cases StateStore.isFinite_of_read_textOf ((sound_noted h).withProgress .complete) hrounded hback _ hnan

/-- The context is written, and nothing else is done to make it. -/
theorem refreshContext_begun {d : Disk} (s : RefactorState)
    (hwritten : (Action.writeText (RefactorState.contextPathIn "/c") (default : DeepContext).markdown).run world =
      (.ok (), { world with disk := d })) :
    refreshContext (who (some s)) { startFrom (config 1) s with iterations := 1 } world =
      ((.ok (), begun s), { world with disk := d }) := by
  unfold refreshContext
  refine bind_eq_ok.mpr ⟨_, _, _, rfl, ?_⟩
  refine bind_eq_ok.mpr ⟨_, _, _, rfl, ?_⟩
  refine bind_eq_ok.mpr ⟨_, _, _, rfl, ?_⟩
  refine bind_eq_ok.mpr ⟨_, _, _, rfl, ?_⟩
  refine bind_eq_ok.mpr ⟨_, _, _, act_apply hwritten _, ?_⟩
  rfl

/-- The survey finds that all gates are met, and ends the run. -/
theorem survey_begun {d : Disk} (s : RefactorState)
    (hwritten : (Action.writeText (RefactorState.contextPathIn "/c") (default : DeepContext).markdown).run world =
      (.ok (), { world with disk := d })) :
    ∃ r, survey (who (some s)) (config 1) { startFrom (config 1) s with iterations := 1 } world =
      ((.ok (.ended .complete), r), { world with disk := d }) ∧ r.state = noted s := by
  have hgates : meetsGates sample.metrics (config 1).profile = true := by decide +kernel
  have hentered : ∀ r : Run, ∃ r', (enter (phaseOf sample.metrics (config 1).profile) : RunAction Unit Unit) r { world with disk := d } =
      ((.ok (), r'), { world with disk := d }) ∧ r'.state = r.state := fun r => ⟨_, rfl, by dsimp only; split <;> rfl⟩
  obtain ⟨r, henter, hstate⟩ := hentered { begun s with state := noted s }
  refine ⟨{ r with message := "All quality gates passed" }, ?_, hstate⟩
  unfold survey
  refine bind_eq_ok.mpr ⟨_, _, _, refreshContext_begun s hwritten, ?_⟩
  refine bind_eq_ok.mpr ⟨_, _, _, rfl, ?_⟩
  refine bind_eq_ok.mpr ⟨sample, _, _, rfl, ?_⟩
  refine bind_eq_ok.mpr ⟨_, _, _, rfl, ?_⟩
  refine bind_eq_ok.mpr ⟨_, { begun s with state := noted s }, { world with disk := d }, rfl, ?_⟩
  refine bind_eq_ok.mpr ⟨_, _, _, henter, ?_⟩
  rw [if_pos hgates]
  rfl

/-- A run without a budget ends with the state that it begins with. -/
theorem refactor_zero (s : RefactorState) : ∃ outcome after, (refactor (who (some s)) (config 0)).run world = (.ok outcome, after) ∧
    outcome.state = (startFrom (config 0) s).state := by
  have hbudget : budgetOf (config 0).maxIterations = 0 := by decide +kernel
  rw [@refactor_run _ (who (some s)) (config 0) world world (some s) rfl]
  unfold wholeRun
  rw [hbudget]
  exact ⟨_, _, rfl, rfl⟩

/-- A run of one iteration ends with progress that is computed anew. -/
theorem refactor_one (s : RefactorState) : ∃ outcome after, (refactor (who (some s)) (config 1)).run world = (.ok outcome, after) ∧
    outcome.state = withProgress (config 1) 0 .complete (noted s) := by
  have hbudget : budgetOf (config 1).maxIterations = 1 := by decide +kernel
  obtain ⟨d, hwritten⟩ := exists_written
  obtain ⟨r, hsurvey, hstate⟩ := survey_begun s hwritten
  have hiterate : iterate (who (some s)) (config 1) { startFrom (config 1) s with iterations := 1 } world =
      ((.ok (some .complete), r), { world with disk := d }) := iterate_of_ended hsurvey
  have hentered : ∃ r', (enter .complete : RunAction Unit Unit) { r with state := withProgress (config 1) 0 .complete r.state }
      { world with disk := d } = ((.ok (), r'), { world with disk := d }) ∧ r'.state = withProgress (config 1) 0 .complete r.state :=
    ⟨_, rfl, by dsimp only; split <;> rfl⟩
  obtain ⟨r', henter, hended⟩ := hentered
  rw [@refactor_run _ (who (some s)) (config 1) world world (some s) rfl]
  have hfinish : finish (who (some s)) (config 1) .complete r { world with disk := d } =
      ((.ok ⟨.complete, r'.iterations, r'.state, r'.phases, r'.requests, r'.message⟩, r'), { world with disk := d }) := by
    unfold finish
    rw [if_pos rfl]
    refine bind_eq_ok.mpr ⟨_, { r with state := withProgress (config 1) 0 .complete r.state }, { world with disk := d }, rfl, ?_⟩
    refine bind_eq_ok.mpr ⟨_, _, _, henter, ?_⟩
    rfl
  have hiterations : iterations (who (some s)) (config 1) 1 (startFrom (config 1) s) world =
      ((.ok .complete, r), { world with disk := d }) := by
    unfold iterations
    refine bind_eq_ok.mpr ⟨_, _, _, rfl, ?_⟩
    refine bind_eq_ok.mpr ⟨_, _, _, rfl, ?_⟩
    exact bind_eq_ok.mpr ⟨_, _, _, hiterate, rfl⟩
  have hwhole : wholeRun (who (some s)) (config 1) (startFrom (config 1) s) world =
      ((.ok ⟨.complete, r'.iterations, r'.state, r'.phases, r'.requests, r'.message⟩, r'), { world with disk := d }) := by
    rw [← hbudget] at hiterations
    exact wholeRun_of_finish hiterations hfinish
  refine ⟨⟨.complete, r'.iterations, r'.state, r'.phases, r'.requests, r'.message⟩, { world with disk := d }, ?_, ?_⟩
  · rw [Option.getD_some, hwhole]
  · rw [← hstate]
    exact hended

end AllMet

/-- A run that begins with no state, or with one that it has read, saves only states that are read as they were written, whoever it
works with and however long: that is so exactly when the start of the state can be read as a time and its progress has only finite
numbers. And what is read as it was written is loaded as it was saved. -/
theorem savesReadable_iff {loaded : Option RefactorState}
    (readable : ∀ s ∈ loaded, s.Fits ∧ ∃ text, StateStore.read text = .state s) :
    ((∀ (η : Type) (who : Collaborators η) (cfg : RunConfig) (w w' : World η), who.load.run w = (.ok loaded, w') →
        Steady who InTime → who.gauge.Sound → Instant.inRange w'.clock → SavesReadable who cfg w) ↔
      ∀ s ∈ loaded, s.Dated ∧ ∀ x ∈ s.progress.amounts, x.isFinite) ∧
    ∀ s, ReadsBack s → ∀ (η : Type) (cacheDir : String) (w w' : World η), (StateStore.save cacheDir s).run w = (.ok (), w') →
      (StateStore.load cacheDir).run w' = (.ok (some s), w') := by
  refine ⟨⟨fun hall s hs => ?_, fun hlasting η who cfg w w' hload htime hgauge hnow => ?_⟩,
    fun s hreads η cacheDir w w' hsaved => StateStore.load_save hsaved hreads⟩
  · obtain rfl := Option.mem_def.mp hs
    obtain ⟨hfits, text, hread⟩ := readable s hs
    obtain ⟨hsound, hamounts, hcounts⟩ := StateStore.sound_of_read hread
    have hruns : ∀ maxIterations, SavesReadable (AllMet.who (some s)) (AllMet.config maxIterations) AllMet.world := fun maxIterations =>
      hall Unit _ _ _ AllMet.world rfl (AllMet.steady _) (AllMet.sound_gauge _) (by decide)
    refine ⟨?_, ?_⟩
    · obtain ⟨outcome, after, hended, hstate⟩ := AllMet.refactor_one s
      by_contra hundated
      have hcompleted := @RefactorState.Fits.withProgress _ (AllMet.config 1) 0 (AllMet.fits_noted hfits) .complete
      exact AllMet.not_readsBack hsound hfits hundated (hstate ▸ readsBack_of_savesReadable (hruns 1) rfl hended (hstate ▸ hcompleted))
    · obtain ⟨outcome, after, hended, hstate⟩ := AllMet.refactor_zero s
      have hback : ReadsBack outcome.state := readsBack_of_savesReadable (hruns 0) rfl hended (by rw [hstate]; exact hfits)
      rw [hstate] at hback
      have hprogress : (encode s.progress).Rounded := Progress.rounded (fun x hx => (hamounts x hx).1) hcounts
      exact StateStore.isFinite_of_read_textOf (s := (startFrom (AllMet.config 0) s).state) (RefactorState.Sound.startFrom hsound)
        hprogress hback
  · refine savesReadable_of_lasting hload htime hgauge hnow ?_
    cases loaded with
    | none => exact RefactorState.lasting_initial _ hnow
    | some s =>
      obtain ⟨-, text, hread⟩ := readable s rfl
      exact RefactorState.lasting_of_read hread (hlasting s rfl).1 (hlasting s rfl).2

/-- A run of one iteration from a state as it is made at the start keeps what it saves readable. -/
theorem freshState_savesReadable :
    let s := RefactorState.initial "/c" 0
    SavesReadable (AllMet.who (some s)) (AllMet.config 1) AllMet.world ∧
      ∃ outcome after, (refactor (AllMet.who (some s)) (AllMet.config 1)).run AllMet.world = (.ok outcome, after) ∧
        ReadsBack outcome.state := by
  intro s
  have hlasting : s.Lasting := RefactorState.lasting_initial "/c" (by decide)
  have hfits : s.Fits := by
    unfold RefactorState.Fits
    decide
  have hread := StateStore.read_textOf hlasting.sound (hlasting.progress hfits)
  have hsaves : SavesReadable (AllMet.who (some s)) (AllMet.config 1) AllMet.world := by
    refine (@savesReadable_iff (some s) fun loaded hloaded => ?_).1.mpr (fun loaded hloaded => ?_) Unit _ _ _ AllMet.world rfl
      (AllMet.steady _) (AllMet.sound_gauge _) (by decide)
    · obtain rfl := Option.some.inj hloaded
      exact ⟨hfits, _, hread⟩
    · obtain rfl := Option.some.inj hloaded
      exact ⟨hlasting.dated, fun x hx => ((hlasting.progress hfits).amounts x hx).isFinite⟩
  obtain ⟨outcome, after, hended, hstate⟩ := AllMet.refactor_one s
  have hcompleted := @RefactorState.Fits.withProgress _ (AllMet.config 1) 0 (AllMet.fits_noted hfits) .complete
  exact ⟨hsaves, outcome, after, hended, readsBack_of_savesReadable hsaves rfl hended (hstate ▸ hcompleted)⟩

/-- A state whose start is no time is read, and a run of one iteration from it ends with a state that is not read any more. -/
theorem undatedState_saves_unreadable :
    let s := { RefactorState.initial "/c" 0 with startTime := "unknown" }
    StateStore.read (StateStore.textOf (encode s)) = .state s ∧
      ∃ outcome after, (refactor (AllMet.who (some s)) (AllMet.config 1)).run AllMet.world = (.ok outcome, after) ∧
        ¬ReadsBack outcome.state := by
  intro s
  have hinitial : (RefactorState.initial "/c" 0).Lasting := RefactorState.lasting_initial "/c" (by decide)
  have hfits : s.Fits := by
    unfold RefactorState.Fits
    decide
  have hsound : s.Sound := ⟨hinitial.sound.iteration, hinitial.sound.distinct, hinitial.sound.qualityMetrics,
    hinitial.sound.satdBaseline, hinitial.sound.lastMetrics⟩
  have hundated : ¬s.Dated := by
    unfold RefactorState.Dated
    decide +kernel
  obtain ⟨outcome, after, hended, hstate⟩ := AllMet.refactor_one s
  exact ⟨StateStore.read_textOf hsound (hinitial.progress hfits), outcome, after, hended,
    hstate ▸ AllMet.not_readsBack hsound hfits hundated⟩

end QualityGate
