import QualityGate.Proofs.Candidates
import QualityGate.Proofs.Iterations

/-!
# Rehearsals

A dry run shows the plan for a file, under the file's name (`showsPlan_planFor`), and skips it. Under measurements that stay the same it
lists all that the tiers admit: its iterations make the choices of `Refactor.Lists` one after another, and it is complete when there is
none left (`rehearsal_lists`). Nobody who would change a file, or check a change, has any part in it (`refactor_unassisted`).
-/

namespace QualityGate

open Refactor RunAction

variable {η α β : Type}

/-! ## Actions that succeed -/

/-- Whether an action succeeds wherever a condition on the world holds, and keeps it. -/
def Action.Succeeds (P : World η → Prop) (a : Action η α) : Prop := ∀ w, P w → ∃ x v, a.run w = (.ok x, v) ∧ P v

/-- Whether an action of a run succeeds wherever a condition holds, and what then holds of its result. -/
def Achieves (I : Run → World η → Prop) (a : RunAction η α) (J : α → Run → World η → Prop) : Prop :=
  ∀ r w, I r w → ∃ x r' w', a r w = ((.ok x, r'), w') ∧ J x r' w'

namespace Achieves

variable {I : Run → World η → Prop}

/-- Two actions in a row succeed where the second does so wherever the first leads. -/
theorem bind {J : α → Run → World η → Prop} {K : β → Run → World η → Prop} {a : RunAction η α} {f : α → RunAction η β}
    (ha : Achieves I a J) (hf : ∀ x, Achieves (J x) (f x) K) : Achieves I (a >>= f) K := by
  intro r w hr
  obtain ⟨x, r₁, w₁, hended, hj⟩ := ha r w hr
  obtain ⟨y, r₂, w₂, hnext, hk⟩ := hf x r₁ w₁ hj
  exact ⟨y, r₂, w₂, by rw [bind_apply, hended, goOn_ok, hnext], hk⟩

theorem change {J : Unit → Run → World η → Prop} {f : Run → Run} (h : ∀ r w, I r w → J () (f r) w) :
    Achieves I (RunAction.change f : RunAction η Unit) J := fun r w hr => ⟨(), f r, w, rfl, h r w hr⟩

/-- What goes on from a look at the run goes on from the run that it sees. -/
theorem run_bind {J : α → Run → World η → Prop} {f : Run → RunAction η α}
    (h : ∀ seen, Achieves (fun r w => I r w ∧ r = seen) (f seen) J) : Achieves I (RunAction.run >>= f) J :=
  fun r w hr => h r r w ⟨hr, rfl⟩

/-- What succeeds with any run succeeds with the one at hand. -/
theorem run_bind_of_forall {J : α → Run → World η → Prop} {f : Run → RunAction η α} (h : ∀ seen, Achieves I (f seen) J) :
    Achieves I (RunAction.run >>= f) J := run_bind fun seen r w hr => h seen r w hr.1

end Achieves

/-! ## What does not hinder a rehearsal -/

/-- Whether the project is measured alike each time and nothing fails that a rehearsal does: as long as a condition on the world holds,
the user does not cancel, the context is made and written, progress is shown, states are saved, and each candidate is a file that can be
read or is absent. -/
structure Supports (who : Collaborators η) (cfg : RunConfig) (sample : QualitySample) (files : List String) (P : World η → Prop) :
    Prop where
  uncanceled : ∀ w, P w → w.canceled = false
  pause : who.pause.Succeeds P
  context : (do Action.writeText (RefactorState.contextPathIn cfg.cacheDir) (← who.gauge.context).markdown).Succeeds P
  measure : ∀ w, P w → ∃ v, who.gauge.measure.run w = (.ok sample, v) ∧ P v
  log : ∀ level message fields, (Action.log level message fields).Succeeds P
  showProgress : ∀ text, (who.showProgress text).Succeeds P
  save : ∀ s, (who.save s).Succeeds P
  reads : ∀ file ∈ files, (Action.readText? (pathIn cfg file)).Succeeds P

/-- Whether a run is still where another one was, as far as choices and the context go, in a world that meets a condition. -/
structure Still (P : World η → Prop) (r₀ r : Run) (w : World η) : Prop where
  world : P w
  skipped : r.skipped = r₀.skipped
  iterations : r.iterations = r₀.iterations
  completed : r.state.filesCompleted = r₀.state.filesCompleted
  contextPath : r.state.contextPath = r₀.state.contextPath

/-- Whether a context can be written where a run writes it, and a condition holds then. -/
def Writable (cfg : RunConfig) (P : World η → Prop) (made : DeepContext) (w : World η) : Prop :=
  ∃ u, (Action.writeText (RefactorState.contextPathIn cfg.cacheDir) made.markdown).run w = (.ok (), u) ∧ P u

/-- What a survey comes to where the gates are not met: a choice, or the insight that there is none. -/
def Finds (cfg : RunConfig) (sample : QualitySample) (P : World η → Prop) (r₀ : Run) (surveyed : Survey) (r : Run) (w : World η) :
    Prop :=
  Still P r₀ r w ∧ match select cfg r₀ sample with
    | .selected target => surveyed = .chosen sample target
    | .exhausted reason => surveyed = .ended .complete ∧ r.message = reason

namespace Supports

variable {who : Collaborators η} {cfg : RunConfig} {sample : QualitySample} {files : List String} {P : World η → Prop} {r₀ : Run}

/-- An action that succeeds in the world leaves the run where it is. -/
theorem act {a : Action η α} (h : a.Succeeds P) : Achieves (Still P r₀) (RunAction.act a) fun _ => Still P r₀ := by
  intro r w hr
  obtain ⟨x, v, hrun, hv⟩ := h w hr.world
  exact ⟨x, r, v, act_apply hrun r, { hr with world := hv }⟩

/-- The note of the progress leaves a run where it is. -/
theorem updateProgress (phase : Phase) :
    Achieves (Still P r₀) (Refactor.updateProgress cfg phase : RunAction η Unit) fun _ => Still P r₀ := by
  intro r w hr
  refine ⟨(), _, w, updateProgress_apply phase r w, hr.world, hr.skipped, hr.iterations, ?_, ?_⟩
  · dsimp only [withProgress]
    exact hr.completed
  · dsimp only [withProgress]
    exact hr.contextPath

/-- The turn to a phase leaves a run where it is. -/
theorem enter (phase : Phase) : Achieves (Still P r₀) (RunAction.enter phase : RunAction η Unit) fun _ => Still P r₀ := by
  refine Achieves.change fun r w hr => ?_
  split
  · exact hr
  · exact { hr with }

variable (h : Supports who cfg sample files P)
include h

/-- The context is made and written where it always is. -/
theorem refreshContext (hpath : r₀.state.contextPath = RefactorState.contextPathIn cfg.cacheDir) :
    Achieves (Still P r₀) (Refactor.refreshContext who) fun _ => Still P r₀ := by
  have hmade : Achieves (Still P r₀) (RunAction.act who.gauge.context) fun made => Still (Writable cfg P made) r₀ := by
    intro r w hr
    obtain ⟨_, u, hrun, hu⟩ := h.context w hr.world
    obtain ⟨made, v, hmade, hwritten⟩ := Action.run_bind_eq_ok.mp hrun
    exact ⟨made, r, v, act_apply hmade r, { hr with world := ⟨u, hwritten, hu⟩ }⟩
  have hkept : ∀ made, Achieves (Still (Writable cfg P made) r₀) (RunAction.change fun r =>
      { r with context := some made, contextMarkdown := made.markdown } : RunAction η Unit)
      fun _ r w => Still (Writable cfg P made) r₀ r w ∧ r.contextMarkdown = made.markdown :=
    fun made => Achieves.change fun r w hr => ⟨{ hr with }, rfl⟩
  have hwritten : ∀ made (seen : Run), seen.contextMarkdown = made.markdown →
      seen.state.contextPath = RefactorState.contextPathIn cfg.cacheDir → Achieves (Still (Writable cfg P made) r₀)
        (RunAction.act (Action.writeText seen.state.contextPath seen.contextMarkdown)) fun _ => Still P r₀ := by
    intro made seen hmarkdown hseen r w hr
    obtain ⟨u, hrun, hu⟩ := hr.world
    rw [hmarkdown, hseen]
    exact ⟨(), r, u, act_apply hrun r, { hr with world := hu }⟩
  have hgenerated : Achieves (Still P r₀) (changeState fun s => { s with contextGenerated := true } : RunAction η Unit)
      fun _ => Still P r₀ :=
    Achieves.change fun r w hr => { hr with }
  refine Achieves.run_bind fun seen => ?_
  rintro r w ⟨hr, rfl⟩
  split
  · refine hmade.bind (fun made => (hkept made).bind fun _ => Achieves.run_bind fun seen => ?_) r w hr
    rintro r' w' ⟨⟨hr', hmarkdown⟩, rfl⟩
    exact (hwritten made r' hmarkdown (hr'.contextPath.trans hpath)).bind (fun _ => hgenerated) r' w' hr'
  · exact ⟨(), r, w, rfl, hr⟩

/-- A run that nobody cancels goes on. -/
theorem checkCanceled : Achieves (Still P r₀) (RunAction.checkCanceled who.pause) fun _ => Still P r₀ := by
  intro r w hr
  obtain ⟨_, v, hpaused, hv⟩ := h.pause w hr.world
  refine ⟨(), r, v, ?_, { hr with world := hv }⟩
  unfold RunAction.checkCanceled
  rw [bind_apply, act_apply hpaused, goOn_ok, bind_apply]
  show (if v.canceled = true then _ else _ : RunAction η Unit) r v = _
  rw [h.uncanceled v hv]
  rfl

/-- The choice succeeds, and comes to a selected file or to the insight that there is none. -/
theorem choose : Achieves (Still P r₀) (Refactor.choose who cfg sample) (Finds cfg sample P r₀) := by
  refine Achieves.run_bind fun seen r w ⟨hr, hseen⟩ => ?_
  subst hseen
  unfold Finds
  rw [← select_congr hr.completed hr.skipped]
  cases hchoice : select cfg r sample with
  | selected target => exact ⟨_, r, w, rfl, hr, rfl⟩
  | exhausted reason =>
    obtain ⟨_, v, hshown, hv⟩ := h.showProgress (progressBlock r.state none) w hr.world
    refine ⟨.ended .complete, { r with message := reason }, v, ?_, { hr with world := hv }, rfl, rfl⟩
    show (RunAction.act (who.showProgress (progressBlock r.state none)) >>= _ : RunAction η Survey) r w = _
    rw [bind_apply, act_apply hshown, goOn_ok]
    rfl

/-- A survey succeeds where the gates are not met, and comes to what the choice comes to. -/
theorem survey (unmet : meetsGates sample.metrics cfg.profile = false)
    (hpath : r₀.state.contextPath = RefactorState.contextPathIn cfg.cacheDir) :
    Achieves (Still P r₀) (Refactor.survey who cfg) (Finds cfg sample P r₀) := by
  have hmeasure : Achieves (Still P r₀) (RunAction.act who.gauge.measure) fun x r w => Still P r₀ r w ∧ x = sample := by
    intro r w hr
    obtain ⟨v, hrun, hv⟩ := h.measure w hr.world
    exact ⟨sample, r, v, act_apply hrun r, { hr with world := hv }, rfl⟩
  have hmeasured : Achieves (Still P r₀) (changeState (measured sample.metrics) : RunAction η Unit) fun _ => Still P r₀ :=
    Achieves.change fun r w hr => { hr with }
  refine (h.refreshContext hpath).bind fun _ => h.checkCanceled.bind fun _ => hmeasure.bind fun x => ?_
  rintro r w ⟨hr, rfl⟩
  refine hmeasured.bind (fun _ => (updateProgress _).bind fun _ => (enter _).bind fun _ => ?_) r w hr
  rw [if_neg (Bool.eq_false_iff.mp unmet)]
  split
  · exact (act (h.log _ _ _)).bind fun _ => h.choose
  · exact h.choose

/-- The turn to a file succeeds. -/
theorem turnTo (target : Target) : Achieves (Still P r₀) (Refactor.turnTo who cfg sample target) fun _ => Still P r₀ := by
  have hnoted : Achieves (Still P r₀) (changeState fun s =>
      { s with currentFile := some target.file, lastTarget := some target.file, lastMetrics := some sample.metrics } :
        RunAction η Unit) fun _ => Still P r₀ := Achieves.change fun r w hr => { hr with }
  have hshown : ∀ (again : Bool) (seen : Run), Achieves (Still P r₀) (do
      RunAction.act (who.showProgress (progressBlock seen.state (some target)))
      return again : RunAction η Bool) fun _ => Still P r₀ := by
    intro again seen r w hr
    obtain ⟨_, v, hrun, hv⟩ := h.showProgress (progressBlock seen.state (some target)) w hr.world
    exact ⟨again, r, v, by rw [bind_apply, act_apply hrun, goOn_ok]; rfl, { hr with world := hv }⟩
  have hturned : ∀ again : Bool, Achieves (Still P r₀) (do
      changeState fun s =>
        { s with currentFile := some target.file, lastTarget := some target.file, lastMetrics := some sample.metrics }
      RunAction.act (who.showProgress (progressBlock (← RunAction.run).state (some target)))
      return again : RunAction η Bool) fun _ => Still P r₀ :=
    fun again => hnoted.bind fun _ => Achieves.run_bind_of_forall (hshown again)
  unfold Refactor.turnTo
  dsimp only
  split
  · exact (updateProgress _).bind fun _ => (enter _).bind fun _ => Achieves.run_bind_of_forall fun _ => hturned _
  · exact Achieves.run_bind_of_forall fun _ => hturned _

end Supports

/-! ## The plan that is shown -/

/-- What a shown plan says of a violation. -/
def PlannedViolation.text (v : PlannedViolation) : String := s!"  {v.line}:{v.column} {v.lintName} -> {v.fixStrategy.describe}"

/-- Whether a text shows the plan for a target: its first line names the target's file, and each finding that the target is chosen for
has a line of its own, with the way to fix it. -/
structure ShowsPlan (text : String) (sample : QualitySample) (target : Target) : Prop where
  names : ∃ (count : Nat) (more : String), text = s!"Plan for {target.file} ({count} violations)" ++ "\n" ++ more
  finds : ∀ v ∈ findingsOf sample target, ∃ before after : String, text = before ++ "\n" ++ (Plan.planned v).text ++ "\n" ++ after

/-- Lines that are joined begin with the first of them. -/
theorem join_lines_eq (first : String) (lines : List String) :
    ∃ more, Text.join "\n" (first :: lines) ++ "\n" = first ++ "\n" ++ more := by
  unfold Text.join
  cases lines with
  | nil => exact ⟨"", by rw [String.intercalate_singleton, String.append_empty]⟩
  | cons line rest =>
    refine ⟨String.intercalate "\n" (line :: rest) ++ "\n", ?_⟩
    rw [← List.singleton_append, String.intercalate_append_of_ne_nil (List.cons_ne_nil _ _) (List.cons_ne_nil _ _),
      String.intercalate_singleton, String.append_assoc]

/-- Each line after the first stands between two line ends. -/
theorem join_lines_of_mem (first : String) {line : String} {lines : List String} (h : line ∈ lines) :
    ∃ before after, Text.join "\n" (first :: lines) ++ "\n" = before ++ "\n" ++ line ++ "\n" ++ after := by
  obtain ⟨above, below, rfl⟩ := List.append_of_mem h
  obtain ⟨after, hafter⟩ := join_lines_eq line below
  refine ⟨Text.join "\n" (first :: above), after, ?_⟩
  have hsplit : Text.join "\n" (first :: (above ++ line :: below)) =
      Text.join "\n" (first :: above) ++ "\n" ++ Text.join "\n" (line :: below) :=
    String.intercalate_append_of_ne_nil (List.cons_ne_nil _ _) (List.cons_ne_nil _ _)
  rw [hsplit, String.append_assoc, hafter]
  simp only [String.append_assoc]

/-- Each finding that the target is chosen for is in its plan. -/
theorem findingsOf_planned {cfg : RunConfig} {r : Run} {sample : QualitySample} {target : Target} {standing : Option String}
    {v : Violation} (h : v ∈ findingsOf sample target) : Plan.planned v ∈ (planFor cfg r sample target standing).violations := by
  refine List.mem_map_of_mem ?_
  have hgiven : v ∈ if target.tier ≠ .build ∧ (coverageOf sample target.file).lt cfg.profile.coverageMin then
      findingsOf sample target ++ [missingTestsViolation target.file (coverageOf sample target.file) cfg.profile]
      else findingsOf sample target := by
    split
    · exact List.mem_append_left _ h
    · exact h
  unfold Plan.findings
  cases standing with
  | none => exact hgiven
  | some content => exact List.mem_append_left _ (List.mem_append_left _ hgiven)

/-- The plan for a target is shown as that target's. -/
theorem showsPlan_planFor (cfg : RunConfig) (r : Run) (sample : QualitySample) (target : Target) (standing : Option String) :
    ShowsPlan (planFor cfg r sample target standing).text sample target where
  names := by
    obtain ⟨more, hmore⟩ := join_lines_eq
      s!"Plan for {target.file} ({(planFor cfg r sample target standing).violations.length} violations)"
      ((planFor cfg r sample target standing).violations.map PlannedViolation.text)
    exact ⟨_, more, hmore⟩
  finds v hv := join_lines_of_mem _ (List.mem_map_of_mem (findingsOf_planned hv))

/-! ## An iteration of a rehearsal -/

/-- Whether an iteration chooses a file by a measurement, shows the plan for it and goes on, with the file skipped. -/
inductive Iteration.Rehearses (it : Iteration η) (sample : QualitySample) (target : Target) : Prop where
  | intro {standing : Option String} {plan : RewritePlan} {r : Run} {w w₁ w₂ : World η} (turns : it.Turns sample target false r w)
      (reads : (Action.readText? (pathIn it.cfg target.file)).run w = (.ok standing, w₁))
      (plans : plan = planFor it.cfg r sample target standing) (names : plan.filePath = target.file)
      (tells : ShowsPlan plan.text sample target) (shows : (it.who.showProgress plan.text).run w₁ = (.ok (), w₂))
      (goesOn : it.ended = ((.ok none, skip r target.file), w₂))

/-- Where iterations rehearse targets one by one, each of the targets is rehearsed by one of them. -/
theorem exists_rehearses_of_mem {sample : QualitySample} {its : List (Iteration η)} {targets : List Target} {t : Target}
    (h : List.Forall₂ (fun it t => it.Rehearses sample t) its targets) (ht : t ∈ targets) : ∃ it ∈ its, it.Rehearses sample t := by
  induction h with
  | nil => exact absurd ht List.not_mem_nil
  | cons hit _ ih =>
    rcases List.mem_cons.mp ht with rfl | ht
    · exact ⟨_, List.mem_cons_self, hit⟩
    · obtain ⟨it, hmem, hrehearses⟩ := ih ht
      exact ⟨it, List.mem_cons_of_mem _ hmem, hrehearses⟩

section Rehearsing

variable {who : Collaborators η} {cfg : RunConfig} {sample : QualitySample} {files : List String} {P : World η → Prop}

/-- In a dry run the work on a file is to show the plan for it. -/
theorem processTarget_dry (dry : cfg.dryRun = true) (target : Target) : processTarget who cfg sample target = (do
    let standing ← act (Action.readText? (pathIn cfg target.file))
    let seen ← run
    act (who.showProgress (planFor cfg seen sample target standing).text)
    change (skip · target.file)
    return none) := by
  unfold processTarget
  simp only [dry, if_true]
  rfl

/-- A rehearsal shows the plan, skips the file and goes on. -/
theorem processTarget_rehearsal {target : Target} {standing : Option String} {r : Run} {w w₁ w₂ : World η} (dry : cfg.dryRun = true)
    (hread : (Action.readText? (pathIn cfg target.file)).run w = (.ok standing, w₁))
    (hshown : (who.showProgress (planFor cfg r sample target standing).text).run w₁ = (.ok (), w₂)) :
    processTarget who cfg sample target r w = ((.ok none, skip r target.file), w₂) := by
  rw [processTarget_dry dry, bind_apply, act_apply hread, goOn_ok]
  show (act (who.showProgress (planFor cfg r sample target standing).text) >>= _ : RunAction η (Option RefactorStatus)) r w₁ = _
  rw [bind_apply, act_apply hshown, goOn_ok]
  rfl

/-- The run that has begun one more iteration. -/
def counted (r : Run) : Run := { r with iterations := r.iterations + 1 }

variable {r : Run} {w : World η} (h : Supports who cfg sample files P)
include h

/-- A run that nobody cancels begins its next iteration. -/
theorem Supports.exists_begins (holds : P w) : ∃ v, P v ∧ Begins who cfg r w ⟨who, cfg, counted r, v⟩ := by
  obtain ⟨_, v, hpauses, hv⟩ := h.pause w holds
  exact ⟨v, hv, begins_of_uncanceled hpauses (h.uncanceled v hv)⟩

/-- Where there is a new choice, the next iteration rehearses it. -/
theorem Supports.exists_rehearses {target : Target} (unmet : meetsGates sample.metrics cfg.profile = false) (dry : cfg.dryRun = true)
    (holds : P w) (hpath : r.state.contextPath = RefactorState.contextPathIn cfg.cacheDir)
    (chosen : select cfg r sample = .selected target) (listed : target.file ∈ files) (fresh : ¬Repeats r.state.last sample target) :
    ∃ it r' w', Begins who cfg r w it ∧ it.ended = ((.ok none, r'), w') ∧ it.Rehearses sample target ∧
      Still P (skip (counted r) target.file) r' w' ∧ r'.state.last = choiceOf sample target := by
  obtain ⟨v, hv, hbegins⟩ := h.exists_begins holds
  obtain ⟨surveyed, r₁, w₁, hsurvey, hstill₁, hfinds⟩ :=
    @survey η who cfg sample files P (counted r) h unmet hpath (counted r) v ⟨hv, rfl, rfl, rfl, rfl⟩
  rw [show select cfg (counted r) sample = .selected target from (select_congr rfl rfl).trans chosen] at hfinds
  obtain rfl : surveyed = .chosen sample target := hfinds
  obtain ⟨again, r₂, w₂, hturn, hstill₂⟩ := h.turnTo target r₁ w₁ hstill₁
  have hturns : (⟨who, cfg, counted r, v⟩ : Iteration η).Turns sample target again r₂ w₂ := .intro hsurvey hturn
  obtain rfl : again = false := Bool.eq_false_iff.mpr fun hagain => fresh (hturns.again_iff.mp hagain)
  obtain ⟨standing, w₃, hread, hw₃⟩ := h.reads target.file listed w₂ hstill₂.world
  obtain ⟨_, w₄, hshown, hw₄⟩ := h.showProgress (planFor cfg r₂ sample target standing).text w₃ hw₃
  have hended := hturns.ended_other.trans (processTarget_rehearsal dry hread hshown)
  have hlast := hturns.selects.ended_last
  rw [hended] at hlast
  have hskipped : (skip r₂ target.file).skipped = (skip (counted r) target.file).skipped :=
    congrArg (· ++ [target.file]) hstill₂.skipped
  exact ⟨_, _, w₄, hbegins, hended, .intro hturns hread rfl rfl (showsPlan_planFor ..) hshown hended,
    ⟨hw₄, hskipped, hstill₂.iterations, hstill₂.completed, hstill₂.contextPath⟩, hlast⟩

/-- Where there is no choice, the next iteration ends the run as complete. -/
theorem Supports.exists_completes {reason : String} (unmet : meetsGates sample.metrics cfg.profile = false) (holds : P w)
    (hpath : r.state.contextPath = RefactorState.contextPathIn cfg.cacheDir) (none : select cfg r sample = .exhausted reason) :
    ∃ it r' w', Begins who cfg r w it ∧ it.ended = ((.ok (some .complete), r'), w') ∧ Still P (counted r) r' w' ∧
      r'.message = reason := by
  obtain ⟨v, hv, hbegins⟩ := h.exists_begins holds
  obtain ⟨surveyed, r₁, w₁, hsurvey, hstill, hfinds⟩ :=
    @survey η who cfg sample files P (counted r) h unmet hpath (counted r) v ⟨hv, rfl, rfl, rfl, rfl⟩
  rw [show select cfg (counted r) sample = .exhausted reason from (select_congr rfl rfl).trans none] at hfinds
  obtain ⟨rfl, hmessage⟩ : surveyed = .ended .complete ∧ r₁.message = reason := hfinds
  exact ⟨_, r₁, w₁, hbegins, iterate_of_ended hsurvey, hstill, hmessage⟩

/-- From where a run stands its iterations rehearse what is still to be listed, and one more completes it. -/
theorem Supports.exists_rehearsed {start : Run} {w₀ : World η} {past : List (Iteration η)} {targets : List Target}
    (unmet : meetsGates sample.metrics cfg.profile = false) (dry : cfg.dryRun = true) (lists : Lists cfg sample r targets)
    (course : Course who cfg start w₀ past r w) (holds : P w)
    (hpath : r.state.contextPath = RefactorState.contextPathIn cfg.cacheDir) (listed : ∀ t ∈ targets, t.file ∈ files)
    (fresh : ∀ t, select cfg r sample = .selected t → ¬Repeats r.state.last sample t)
    (within : past.length + targets.length < budgetOf cfg.maxIterations) :
    ∃ its last r' w', Occurs who cfg start w₀ (its.reverse ++ past) last ∧
      List.Forall₂ (fun it t => it.Rehearses sample t) its targets ∧ last.ended = ((.ok (some .complete), r'), w') ∧
      r'.message = "No eligible file remains in any tier" ∧ r'.iterations = r.iterations + targets.length + 1 ∧ P w' := by
  induction targets generalizing r w past with
  | nil =>
    cases lists with
    | exhausted none =>
    obtain ⟨-, rfl⟩ := candidates_of_exhausted none
    obtain ⟨last, r', w', hbegins, hended, hstill, hmessage⟩ := h.exists_completes unmet holds hpath none
    exact ⟨[], last, r', w', .intro course hbegins within, .nil, hended, hmessage, hstill.iterations, hstill.world⟩
  | cons t rest ih =>
    cases lists with
    | next chosen lists =>
    obtain ⟨it, r₁, w₁, hbegins, hended, hrehearses, hstill, hlast⟩ :=
      h.exists_rehearses unmet dry holds hpath chosen (listed t List.mem_cons_self) (fresh t chosen)
    obtain ⟨_, w₂, hsaved, hw₂⟩ := h.save r₁.state w₁ hstill.world
    have hnew : ∀ t', select cfg r₁ sample = .selected t' → ¬Repeats r₁.state.last sample t' := by
      intro t' hchosen hrepeats
      rw [hlast, repeats_choiceOf] at hrepeats
      have hcandidate : t'.file ∈ candidates cfg (skip r t.file) sample :=
        mem_candidates_of_select ((select_congr hstill.completed hstill.skipped).symm.trans hchosen)
      exact (mem_candidates_skip_iff.mp hcandidate).2 (congrArg normalizePath hrepeats.1.symm)
    rw [List.length_cons] at within
    obtain ⟨its, last, r', w', hoccurs, hall, hcomplete, hmessage, hiterations, hw'⟩ :=
      ih (lists.congr hstill.completed hstill.skipped) (.next course hbegins hended hsaved) hw₂ (hstill.contextPath.trans hpath)
        (fun t' ht' => listed t' (List.mem_cons_of_mem t ht')) hnew (by rw [List.length_cons]; omega)
    refine ⟨it :: its, last, r', w', ?_, .cons hrehearses hall, hcomplete, hmessage, ?_, hw'⟩
    · rwa [List.reverse_cons, List.append_assoc, List.singleton_append]
    · have hcounted : r₁.iterations = r.iterations + 1 := hstill.iterations
      rw [hiterations, hcounted, List.length_cons]
      omega

/-- A complete run ends in order. -/
theorem Supports.finish (holds : P w) : ∃ outcome r' w', Refactor.finish who cfg .complete r w = ((.ok outcome, r'), w') ∧
    outcome.status = .complete ∧ outcome.message = r.message ∧ outcome.iterations = r.iterations := by
  have hprogress : Achieves (fun r' w' => r' = r ∧ P w') (Refactor.updateProgress cfg .complete : RunAction η Unit) fun _ r' w' =>
      (r'.message = r.message ∧ r'.iterations = r.iterations) ∧ P w' := by
    rintro _ w' ⟨rfl, hw'⟩
    exact ⟨(), _, w', updateProgress_apply .complete _ w', ⟨rfl, rfl⟩, hw'⟩
  have henter : Achieves (fun r' w' => (r'.message = r.message ∧ r'.iterations = r.iterations) ∧ P w')
      (RunAction.enter .complete : RunAction η Unit) fun _ r' w' => (r'.message = r.message ∧ r'.iterations = r.iterations) ∧ P w' := by
    refine Achieves.change fun r' w' hr' => ?_
    split <;> exact hr'
  have hrest : Achieves (fun r' w' => (r'.message = r.message ∧ r'.iterations = r.iterations) ∧ P w') (do
      let r ← RunAction.run
      RunAction.act (who.save r.state)
      return ⟨.complete, r.iterations, r.state, r.phases, r.requests, r.message⟩ : RunAction η RefactorOutcome) fun outcome _ _ =>
        outcome.status = .complete ∧ outcome.message = r.message ∧ outcome.iterations = r.iterations := by
    refine Achieves.run_bind fun seen r' w' => ?_
    rintro ⟨⟨hkept, hw'⟩, rfl⟩
    obtain ⟨_, v, hsaved, -⟩ := h.save r'.state w' hw'
    refine ⟨⟨.complete, r'.iterations, r'.state, r'.phases, r'.requests, r'.message⟩, r', v, ?_, rfl, hkept⟩
    rw [bind_apply, act_apply hsaved, goOn_ok]
    rfl
  unfold Refactor.finish
  rw [if_pos rfl]
  exact (hprogress.bind fun _ => henter.bind fun _ => hrest) r w ⟨rfl, holds⟩

end Rehearsing

/-! ## Who has no part in a rehearsal -/

section Unassisted

variable {who : Collaborators η} {cfg : RunConfig} (dry : cfg.dryRun = true) (rewriter : Rewriter η) (verifyBuild : Action η BuildCheck)
  (agent : Option (RewriteAgent η))
include dry

/-- The work on a target asks none of these in a rehearsal. -/
theorem processTarget_unassisted (sample : QualitySample) (target : Target) :
    processTarget { who with rewriter, verifyBuild, agent } cfg sample target = processTarget who cfg sample target := by
  rw [processTarget_dry dry, processTarget_dry dry]

/-- An iteration asks none of these in a rehearsal. -/
theorem iterate_unassisted : iterate { who with rewriter, verifyBuild, agent } cfg = iterate who cfg := by
  unfold iterate
  simp only [processTarget_unassisted dry]
  rfl

/-- Iterations ask none of these in a rehearsal. -/
theorem iterations_unassisted (budget : Nat) :
    iterations { who with rewriter, verifyBuild, agent } cfg budget = iterations who cfg budget := by
  induction budget with
  | zero => rfl
  | succ budget ih =>
    unfold iterations
    rw [iterate_unassisted dry, ih]

/-- A dry run does the same whoever rewrites files, checks builds and answers requests, so none of them has a part in it. -/
theorem refactor_unassisted : refactor { who with rewriter, verifyBuild, agent } cfg = refactor who cfg := by
  have hwhole : wholeRun { who with rewriter, verifyBuild, agent } cfg = wholeRun who cfg := by
    unfold wholeRun
    rw [iterations_unassisted dry]
    rfl
  unfold refactor
  rw [hwhole]

end Unassisted

/-! ## Dry runs -/

/-- A dry run lists every candidate exactly once, under measurements that stay the same and do not meet the gates, unless the loaded state
tells of its first choice or its budget is spent before: its iterations rehearse the choices that come of each other until there is none,
each of a candidate of its own, for every candidate, and one more iteration completes it. -/
theorem rehearsal_lists {who : Collaborators η} {cfg : RunConfig} {sample : QualitySample} {P : World η → Prop}
    {loaded : Option RefactorState} {w₀ w : World η} (load : who.load.run w₀ = (.ok loaded, w)) (dry : cfg.dryRun = true)
    (unmet : meetsGates sample.metrics cfg.profile = false) (holds : P w)
    (supports : Supports who cfg sample (candidates cfg (resume cfg loaded w.clock) sample) P)
    (fresh : ∀ t, select cfg (resume cfg loaded w.clock) sample = .selected t →
      ¬Repeats (resume cfg loaded w.clock).state.last sample t)
    (enough : distinctCount (candidates cfg (resume cfg loaded w.clock) sample) < budgetOf cfg.maxIterations) :
    let start := resume cfg loaded w.clock
    (∃ targets its last outcome w', Lists cfg sample start targets ∧ List.Forall₂ (fun it t => it.Rehearses sample t) its targets ∧
      Occurs who cfg start w its.reverse last ∧ last.EndsWith .complete ∧
      (targets.map fun t => normalizePath t.file).Nodup ∧ (∀ t ∈ targets, t.file ∈ candidates cfg start sample) ∧
      (∀ path ∈ candidates cfg start sample, ∃ t ∈ targets, normalizePath t.file = normalizePath path) ∧
      (refactor who cfg).run w₀ = (.ok outcome, w') ∧ outcome.status = .complete ∧
      outcome.message = "No eligible file remains in any tier" ∧
      outcome.iterations = distinctCount (candidates cfg start sample) + 1) ∧
    ∀ rewriter verifyBuild agent, (refactor { who with rewriter, verifyBuild, agent } cfg).run w₀ = (refactor who cfg).run w₀ := by
  intro start
  refine ⟨?_, fun rewriter verifyBuild agent => by rw [refactor_unassisted dry]⟩
  -- the choices are listed by themselves first, as none of them depends on what the iterations do
  obtain ⟨targets, hlists⟩ := exists_lists cfg start sample
  have hwithin : ([] : List (Iteration η)).length + targets.length < budgetOf cfg.maxIterations := by
    rw [List.length_nil, hlists.length_eq, Nat.zero_add]
    exact enough
  obtain ⟨its, last, r, w₁, hoccurs, hall, hended, hmessage, hiterations, hw₁⟩ :=
    supports.exists_rehearsed unmet dry hlists .begin holds rfl hlists.candidate fresh hwithin
  rw [List.append_nil] at hoccurs
  have hends : last.EndsWith .complete := by
    unfold Iteration.EndsWith
    rw [hended]
  obtain ⟨outcome, r', w', hfinish, hstatus, hmessage', hiterations'⟩ := supports.finish hw₁
  refine ⟨targets, its, last, outcome, w', hlists, hall, hoccurs, hends, hlists.distinct, hlists.candidate, hlists.covers, ?_, hstatus,
    hmessage'.trans hmessage, ?_⟩
  · have hiterated := hoccurs.iterations_eq hends
    rw [hended] at hiterated
    have hwhole : wholeRun who cfg start w = ((.ok outcome, r'), w') := wholeRun_of_finish hiterated hfinish
    rw [refactor_run load]
    show ((wholeRun who cfg start w).1.1, (wholeRun who cfg start w).2) = _
    rw [hwhole]
  · rw [hiterations', hiterations, hlists.length_eq]
    exact congrArg (· + 1) (Nat.zero_add _)

namespace TwoFiles

/-- Findings in two files, one of them spelled in two ways. -/
def sample : QualitySample :=
  { OneFinding.sample with
    violations := [{ (default : Violation) with file := "a.rs" }, { (default : Violation) with file := "b.rs" },
      { (default : Violation) with file := "./a.rs" }] }

/-- Collaborators that would fail if they were asked to change a file or to check a change. -/
def who : Collaborators Unit :=
  { OneFinding.who with
    gauge := { OneFinding.who.gauge with measure := pure sample }
    rewriter := fun _ => Action.fail (.other "asked")
    verifyBuild := Action.fail (.other "asked")
    agent := some fun _ => Action.fail (.other "asked") }

def config : RunConfig := { OneFinding.config with cacheDir := "/c", maxIterations := 3, dryRun := true }

/-- One of the files is there, and the context of an earlier run. -/
def disk : Disk := Disk.write [("/p/a.rs", .file "old"), ("/c", .directory)] "/c/deep_context.md" (default : DeepContext).markdown

def world : World Unit := { disk, clock := 0, inner := () }

/-- Whether nobody has canceled or changed the disk. -/
def Unchanged (w : World Unit) : Prop := w.canceled = false ∧ w.disk = disk

def start : Run := resume config none world.clock

/-- These collaborators do all that a rehearsal needs. -/
theorem supports : Supports who config sample (candidates config start sample) Unchanged where
  uncanceled _ hw := hw.1
  pause w hw := ⟨(), w, rfl, hw⟩
  context w hw := by
    have hwritten : (Action.writeText "/c/deep_context.md" (default : DeepContext).markdown).run w =
        (.ok (), { w with disk := (w.disk.ensureDirectory "/c").write "/c/deep_context.md" (default : DeepContext).markdown }) :=
      Action.run_writeText_of_clear (by rw [hw.2]; decide +kernel) (by decide +kernel) (by rw [hw.2]; decide +kernel)
    refine ⟨(), _, hwritten, hw.1, ?_⟩
    dsimp only
    rw [hw.2]
    decide +kernel
  measure w hw := ⟨w, rfl, hw⟩
  log _ _ _ w hw := ⟨(), _, rfl, hw⟩
  showProgress _ w hw := ⟨(), w, rfl, hw⟩
  save _ w hw := ⟨(), w, rfl, hw⟩
  reads file hfile w hw := by
    have hfiles : candidates config start sample = ["a.rs", "b.rs"] := by decide +kernel
    rw [hfiles] at hfile
    rcases List.mem_cons.mp hfile with rfl | hfile
    · exact ⟨some "old", w, Action.readText?_of_file (by rw [hw.2]; decide +kernel), hw⟩
    · obtain rfl := List.mem_singleton.mp hfile
      exact ⟨none, w, Action.readText?_of_clear (by rw [hw.2]; decide +kernel) (by decide +kernel) (by rw [hw.2]; decide +kernel), hw⟩

end TwoFiles

open TwoFiles in
/-- A dry run lists two files, shows the plan for each under the file's name and is complete, though nobody could rewrite them. -/
theorem twoFiles_listed : ∃ targets outcome w', ∃ its : List (Iteration Unit), Lists config sample start targets ∧
    (∃ t ∈ targets, t.file = "a.rs") ∧ (∃ t ∈ targets, t.file = "b.rs") ∧
    (∀ path ∈ ["a.rs", "b.rs"], ∃ it ∈ its, ∃ t ∈ targets, t.file = path ∧ it.Rehearses sample t) ∧
    (refactor who config).run world = (.ok outcome, w') ∧ outcome.status = .complete ∧ outcome.iterations = 3 := by
  have hload : who.load.run world = (.ok none, world) := rfl
  have hfresh : ∀ t, select config start sample = .selected t → ¬Repeats start.state.last sample t := by
    rintro t - ⟨_, heq, _⟩
    cases heq
  have hcandidates : candidates config start sample = ["a.rs", "b.rs"] := by decide +kernel
  have hplain : ∀ path ∈ candidates config start sample, normalizePath path = path := by decide +kernel
  obtain ⟨⟨targets, its, last, outcome, w', hlists, hall, -, -, -, hlisted, hcovers, hrun, hstatus, -, hiterations⟩, -⟩ :=
    rehearsal_lists hload rfl (by decide +kernel) ⟨rfl, rfl⟩ supports hfresh (by decide +kernel)
  have hfile : ∀ path ∈ candidates config start sample, ∃ t ∈ targets, t.file = path := by
    intro path hpath
    obtain ⟨t, ht, heq⟩ := hcovers path hpath
    rw [hplain path hpath, hplain t.file (hlisted t ht)] at heq
    exact ⟨t, ht, heq⟩
  rw [hcandidates] at hfile
  refine ⟨targets, outcome, w', its, hlists, hfile "a.rs" List.mem_cons_self, hfile "b.rs" ?_, ?_, hrun, hstatus, ?_⟩
  · exact List.mem_cons_of_mem _ List.mem_cons_self
  · intro path hpath
    obtain ⟨t, ht, heq⟩ := hfile path hpath
    obtain ⟨it, hit, hrehearses⟩ := exists_rehearses_of_mem hall ht
    exact ⟨it, hit, t, ht, heq, hrehearses⟩
  · rw [hiterations]
    decide +kernel

end QualityGate
