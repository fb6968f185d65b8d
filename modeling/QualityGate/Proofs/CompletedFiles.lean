import QualityGate.Proofs.Invariants
import QualityGate.Proofs.RewriteStep
import QualityGate.Proofs.Selection

/-!
# The files that are completed

An iteration adds at most the file that it has chosen to the completed ones, and only when the build with it was good and its
measurement leaves nothing to be done (`iterate_completed`). What is among them is not chosen again, so no file gets there twice,
however it is spelled (`iterate_extends`).
-/

namespace QualityGate

open Refactor RunAction

variable {η α β : Type}

/-- The figures of the progress leave the completed files alone. -/
theorem withProgress_completed {cfg : RunConfig} {now : Instant} {phase : Phase} (s : RefactorState) :
    (withProgress cfg now phase s).filesCompleted = s.filesCompleted := by
  dsimp only [withProgress]

/-- Whether a run has a list of completed files. -/
def HasCompleted (done : List String) (r : Run) (_ : World η) : Prop := r.state.filesCompleted = done

/-- Whether an action leaves the list of completed files as it is, however it ends. -/
structure LeavesCompleted (a : RunAction η α) : Prop where
  same : ∀ r w, (a r w).1.2.state.filesCompleted = r.state.filesCompleted

namespace LeavesCompleted

theorem act (a : Action η α) : LeavesCompleted (RunAction.act a) := ⟨fun _ _ => rfl⟩

theorem change {f : Run → Run} (h : ∀ r, (f r).state.filesCompleted = r.state.filesCompleted) :
    LeavesCompleted (RunAction.change f : RunAction η Unit) := ⟨fun r _ => h r⟩

theorem changeState {f : RefactorState → RefactorState} (h : ∀ s, (f s).filesCompleted = s.filesCompleted) :
    LeavesCompleted (RunAction.changeState f : RunAction η Unit) := change fun r => h r.state

/-- Two actions in a row leave the completed files alone when both do. -/
theorem bind {a : RunAction η α} {f : α → RunAction η β} (ha : LeavesCompleted a) (hf : ∀ x, LeavesCompleted (f x)) :
    LeavesCompleted (a >>= f) := by
  refine ⟨fun r w => ?_⟩
  have hsame := ha.same r w
  rw [bind_apply]
  rcases h : a r w with ⟨⟨result, r'⟩, w'⟩
  rw [h] at hsame
  cases result with
  | ok x => exact ((hf x).same r' w').trans hsame
  | error failure => exact hsame

/-- Only a change of the state can touch the list. -/
theorem of_maintains {a : RunAction η α} (h : ∀ done, Maintains (HasCompleted done) a) : LeavesCompleted a :=
  ⟨fun r w => (h r.state.filesCompleted).holds r w rfl⟩

variable {who : Collaborators η} {cfg : RunConfig}

theorem steady (done : List String) : Steady who (HasCompleted done) := Steady.ofState fun s => s.filesCompleted = done

/-- The note of the progress leaves the completed files alone. -/
theorem updateProgress (phase : Phase) : LeavesCompleted (Refactor.updateProgress cfg phase : RunAction η Unit) := by
  unfold Refactor.updateProgress
  refine (act _).bind fun now => ?_
  exact LeavesCompleted.changeState fun s => withProgress_completed s

/-- The turn to a file leaves the completed files alone. -/
theorem turnTo {sample : QualitySample} {target : Target} : LeavesCompleted (Refactor.turnTo who cfg sample target) :=
  of_maintains fun done => (steady done).surveying.turnTo (fun phase => ⟨fun r w hr => ((updateProgress phase).same r w).trans hr⟩)
    (Ensures.change fun _ _ hr => hr)

section Target

variable {sample : QualitySample} {target : Target} {standing : Option String} {plan : RewritePlan}

/-- The work on a target leaves the completed files alone until its end. -/
theorem rewriteTarget : LeavesCompleted (Refactor.rewriteTarget who cfg sample target standing plan) :=
  of_maintains fun done => (steady done).rewriteTarget

/-- A rehearsal leaves the completed files alone. -/
theorem rehearsal (h : cfg.dryRun = true) : LeavesCompleted (processTarget who cfg sample target) :=
  of_maintains fun done => (steady done).rehearsal h

end Target

end LeavesCompleted

/-! ## Choosing -/

/-- A file that is chosen is not spelled like a completed one. -/
theorem select_fresh {cfg : RunConfig} {r : Run} {sample : QualitySample} {target : Target}
    (h : select cfg r sample = .selected target) : normalizePath target.file ∉ r.state.filesCompleted.map normalizePath := by
  have hopen : ∀ driven, selectTarget (selectionInput cfg r sample driven) = .selected target →
      normalizePath target.file ∉ r.state.filesCompleted.map normalizePath := by
    intro driven hselect
    obtain ⟨anyFile, hopen⟩ := SelectionInput.open_of_selectTarget hselect
    exact hopen.undone
  unfold select at h
  cases hselect : selectTarget (selectionInput cfg r sample sample.unparsedBuildFailure) with
  | selected other =>
    rw [hselect] at h
    exact hopen _ (hselect.trans h)
  | exhausted reason =>
    rw [hselect] at h
    dsimp only at h
    split at h
    · exact hopen false h
    · cases h

/-- What a survey comes to: the run keeps its completed files, and a file that is chosen is not spelled like any of them. -/
def SurveyedFrom (done : List String) (result : Except Failure Survey) (r : Run) (_ : World η) : Prop :=
  r.state.filesCompleted = done ∧
    ∀ sample target, result = .ok (.chosen sample target) → normalizePath target.file ∉ done.map normalizePath

section Survey

variable {who : Collaborators η} {cfg : RunConfig} {done : List String}

/-- A survey keeps the completed files and chooses none that is spelled like them. -/
theorem ensures_survey : Ensures (HasCompleted done) (survey who cfg) (SurveyedFrom done) := by
  have hprogress : ∀ phase, Maintains (HasCompleted done) (updateProgress cfg phase : RunAction η Unit) := by
    refine fun phase => ⟨fun r w hr => ?_⟩
    exact ((LeavesCompleted.updateProgress phase).same r w).trans hr
  refine @Steady.survey η _ who cfg (fun _ => True) (fun _ target => normalizePath target.file ∉ done.map normalizePath)
    (LeavesCompleted.steady done) (Ensures.change fun _ _ hr => hr) (fun _ _ _ _ => trivial) (fun _ _ => Ensures.change fun _ _ hr => hr)
    hprogress fun r w sample target hr _ hchoice => ?_
  rw [← hr]
  exact select_fresh hchoice

end Survey

/-! ## An iteration -/

/-- What it takes for the work on a target to complete it: its rewriting has left nothing to request and has come to a good build, and
its measurement shows enough coverage and no finding. -/
inductive Completes (who : Collaborators η) (cfg : RunConfig) (sample : QualitySample) (target : Target) (r : Run) (w : World η) :
    Prop where
  | intro {standing : Option String} {build : BuildCheck} {measured : FileSample} {r' : Run} {w₁ w₂ w₃ w₄ : World η}
      (live : cfg.dryRun = false)
      (reads : (Action.readText? (pathIn cfg target.file)).run w = (.ok standing, w₁))
      (backed : (backUp (pathIn cfg target.file) standing.isSome).run w₁ = (.ok (), w₂))
      (checked : rewriteAndCheck who cfg sample target standing (planFor cfg r sample target standing) r w₂ =
        ((.ok (.checked false build), r'), w₃))
      (passed : build.ok = true)
      (measures : (who.gauge.measureFile target.file).run { w₃ with disk := w₃.disk.drop (backupOf (pathIn cfg target.file)) } =
        (.ok measured, w₄))
      (covered : cfg.profile.coverageMin.le measured.coverage = true)
      (clean : measured.violations = [])

/-- What it takes for a target to be completed in an iteration: the iteration has chosen it, and its work on it completes it. -/
inductive Earns (who : Collaborators η) (cfg : RunConfig) (r : Run) (w : World η) (target : Target) : Prop where
  | intro {sample : QualitySample} {r₁ r₂ : Run} {w₁ w₂ : World η}
      (chosen : survey who cfg r w = ((.ok (.chosen sample target), r₁), w₁))
      (turned : turnTo who cfg sample target r₁ w₁ = ((.ok false, r₂), w₂))
      (completes : Completes who cfg sample target r₂ w₂)

section Iteration

variable {who : Collaborators η} {cfg : RunConfig}

/-- A rewritten file is completed when its measurement leaves nothing to be done, and else nothing is. -/
theorem concludeTarget_completed (file : String) (r : Run) (w : World η) :
    (concludeTarget who cfg file r w).1.2.state.filesCompleted = r.state.filesCompleted ∨
      (concludeTarget who cfg file r w).1.2.state.filesCompleted = r.state.filesCompleted ++ [file] ∧
        ∃ measured w', (who.gauge.measureFile file).run w = (.ok measured, w') ∧
          cfg.profile.coverageMin.le measured.coverage = true ∧ measured.violations = [] := by
  unfold concludeTarget
  rw [bind_apply]
  rcases hmeasure : (who.gauge.measureFile file).run w with ⟨result, w'⟩
  rw [act_apply hmeasure]
  cases result with
  | error failure => exact .inl rfl
  | ok measured =>
    rw [goOn_ok]
    by_cases hgoals : meetsGoals cfg.profile measured = true
    · rw [if_pos hgoals, bind_apply]
      obtain ⟨hcovered, hclean⟩ := Bool.and_eq_true_iff.mp hgoals
      show (goOn ((.ok r, r), w') _).1.2.state.filesCompleted = _ ∨ (goOn ((.ok r, r), w') _).1.2.state.filesCompleted = _ ∧ _
      rw [goOn_ok]
      split
      · refine .inr ⟨?_, measured, w', rfl, hcovered, List.isEmpty_iff.mp hclean⟩
        rw [bind_apply]
        exact (LeavesCompleted.updateProgress r.state.progress.currentPhase).same _ _
      · exact .inl rfl
    · rw [if_neg hgoals]
      exact .inl ((LeavesCompleted.act _).same r w')

/-- Behind an attempt that leaves nothing unanswered, the target is completed as its measurement lets it. -/
theorem concludeAttempt_completed (file : String) (r : Run) (w : World η) :
    (concludeAttempt who cfg file (.built false) r w).1.2.state.filesCompleted =
      (concludeTarget who cfg file r w).1.2.state.filesCompleted := by
  unfold concludeAttempt
  dsimp only
  rw [bind_apply]
  rcases concludeTarget who cfg file r w with ⟨⟨result, r'⟩, w'⟩
  cases result <;> rfl

/-- An attempt counts as built only if its build check has passed. -/
theorem concludeBuild_built {file : String} {existed awaiting built : Bool} {build : BuildCheck} {r r' : Run} {w w' : World η}
    (h : concludeBuild cfg file existed awaiting build r w = ((.ok (.built built), r'), w')) : build.ok = true := by
  by_contra hbroken
  unfold concludeBuild at h
  rw [if_neg hbroken, bind_apply] at h
  rcases hrestore : (restore (pathIn cfg file) existed).run w with ⟨result, after⟩
  rw [act_apply hrestore] at h
  cases result with
  | error failure => cases (Prod.mk.inj (Prod.mk.inj h).1).1
  | ok => cases (Prod.mk.inj (Prod.mk.inj h).1).1

/-- A rewriting that leaves a file to be measured has come to a good build. -/
theorem rewriteTarget_built {sample : QualitySample} {target : Target} {standing : Option String} {plan : RewritePlan} {r r' : Run}
    {w w' : World η} (h : rewriteTarget who cfg sample target standing plan r w = ((.ok (.built false), r'), w')) :
    ∃ w₀ w₁ build, (backUp (pathIn cfg target.file) standing.isSome).run w = (.ok (), w₀) ∧
      rewriteAndCheck who cfg sample target standing plan r w₀ = ((.ok (.checked false build), r'), w₁) ∧ build.ok = true ∧
      w' = { w₁ with disk := w₁.disk.drop (backupOf (pathIn cfg target.file)) } := by
  rcases hbackUp : (backUp (pathIn cfg target.file) standing.isSome).run w with ⟨result, w₀⟩
  cases result with
  | error failure =>
    unfold rewriteTarget at h
    rw [bind_apply, act_apply hbackUp] at h
    cases (Prod.mk.inj (Prod.mk.inj h).1).1
  | ok =>
    rw [rewriteTarget_eq hbackUp] at h
    rcases hattempt : attempt who cfg sample target standing plan r w₀ with ⟨⟨attempted, r₁⟩, w₁⟩
    rw [hattempt] at h
    cases attempted with
    | error failure =>
      dsimp only at h
      rw [bind_apply] at h
      rcases hrestore : (restore (pathIn cfg target.file) standing.isSome).run w₁ with ⟨result, after⟩
      rw [act_apply hrestore] at h
      cases result <;> cases (Prod.mk.inj (Prod.mk.inj h).1).1
    | ok attempted =>
      obtain ⟨hrun, rfl⟩ := Prod.mk.inj h
      obtain ⟨hbuilt, rfl⟩ := Prod.mk.inj hrun
      obtain rfl := Except.ok.inj hbuilt
      rw [attempt_eq] at hattempt
      rcases hcheck : rewriteAndCheck who cfg sample target standing plan r w₀ with ⟨⟨rewritten, r₂⟩, w₂⟩
      rw [hcheck] at hattempt
      cases rewritten with
      | error failure => cases (Prod.mk.inj (Prod.mk.inj hattempt).1).1
      | ok rewritten =>
        cases rewritten with
        | stopped status => cases (Prod.mk.inj (Prod.mk.inj hattempt).1).1
        | checked awaiting build =>
          dsimp only at hattempt
          have hok := concludeBuild_built hattempt
          rw [concludeBuild_passed hok] at hattempt
          obtain ⟨hrun, rfl⟩ := Prod.mk.inj hattempt
          obtain ⟨hbuilt, rfl⟩ := Prod.mk.inj hrun
          obtain rfl := Attempted.built.inj (Except.ok.inj hbuilt)
          exact ⟨w₀, w₂, build, rfl, hcheck, hok, rfl⟩

/-- The work on a target adds it to the completed files when it completes it, and else adds nothing. -/
theorem processTarget_completed (sample : QualitySample) (target : Target) (r : Run) (w : World η) :
    (processTarget who cfg sample target r w).1.2.state.filesCompleted = r.state.filesCompleted ∨
      Completes who cfg sample target r w ∧
        (processTarget who cfg sample target r w).1.2.state.filesCompleted = r.state.filesCompleted ++ [target.file] := by
  rcases hread : (Action.readText? (pathIn cfg target.file)).run w with ⟨result, w₁⟩
  cases result with
  | error failure =>
    left
    unfold processTarget
    rw [bind_apply, act_apply hread]
    rfl
  | ok standing =>
    cases hdry : cfg.dryRun with
    | true =>
      exact .inl ((LeavesCompleted.rehearsal hdry).same r w)
    | false =>
      rw [processTarget_eq hdry hread, bind_apply]
      have hsame := (@LeavesCompleted.rewriteTarget η who cfg sample target standing (planFor cfg r sample target standing)).same r w₁
      rcases hrewrite : rewriteTarget who cfg sample target standing (planFor cfg r sample target standing) r w₁ with ⟨⟨attempted, r'⟩, w'⟩
      rw [hrewrite] at hsame
      cases attempted with
      | error failure => exact .inl hsame
      | ok attempted =>
        rw [goOn_ok]
        cases attempted with
        | stopped status => exact .inl hsame
        | built awaiting =>
          cases awaiting with
          | true => exact .inl hsame
          | false =>
            obtain ⟨w₂, w₃, build, hbacked, hchecked, hpassed, rfl⟩ := rewriteTarget_built hrewrite
            rw [concludeAttempt_completed, ← hsame]
            rcases concludeTarget_completed target.file r' _ with hkept | ⟨hadded, measured, w₄, hmeasures, hcovered, hclean⟩
            · exact .inl hkept
            · exact .inr ⟨.intro hdry hread hbacked hchecked hpassed hmeasures hcovered hclean, hadded⟩

/-- An iteration completes the target it has chosen, when that earns it, and else completes nothing. -/
theorem iterate_completed (r : Run) (w : World η) :
    (iterate who cfg r w).1.2.state.filesCompleted = r.state.filesCompleted ∨
      ∃ target, Earns who cfg r w target ∧
        (iterate who cfg r w).1.2.state.filesCompleted = r.state.filesCompleted ++ [target.file] := by
  have hsurvey := (@ensures_survey η who cfg r.state.filesCompleted).holds r w rfl
  unfold iterate
  rw [bind_apply]
  rcases hs : survey who cfg r w with ⟨⟨surveyed, r₁⟩, w₁⟩
  rw [hs] at hsurvey
  obtain ⟨hsame, -⟩ := hsurvey
  cases surveyed with
  | error failure => exact .inl hsame
  | ok surveyed =>
    rw [goOn_ok]
    cases surveyed with
    | ended status => exact .inl hsame
    | chosen sample target =>
      have hturn := (@LeavesCompleted.turnTo η who cfg sample target).same r₁ w₁
      dsimp only
      rw [bind_apply]
      rcases ht : turnTo who cfg sample target r₁ w₁ with ⟨⟨again, r₂⟩, w₂⟩
      rw [ht] at hturn
      rw [hsame] at hturn
      cases again with
      | error failure => exact .inl hturn
      | ok again =>
        rw [goOn_ok]
        cases again with
        | true => exact .inl hturn
        | false =>
          rw [if_neg Bool.false_ne_true]
          rcases processTarget_completed sample target r₂ w₂ with hkept | ⟨hcompletes, hadded⟩
          · exact .inl (hkept.trans hturn)
          · rw [hturn] at hadded
            exact .inr ⟨target, .intro hs ht hcompletes, hadded⟩

end Iteration

/-! ## What completing adds -/

/-- Whether no path stands twice among some, however it is spelled. -/
def DistinctPaths (paths : List String) : Prop := (paths.map normalizePath).Nodup

/-- Whether completed files are others with what was completed behind them, and are spelled differently when the others are. -/
structure Extends (before after : List String) : Prop where
  keeps : before <+: after
  distinct : DistinctPaths before → DistinctPaths after

namespace Extends

theorem refl (files : List String) : Extends files files := ⟨List.prefix_refl files, id⟩

/-- Completed files that extend others extend what the others do. -/
theorem trans {first second third : List String} (h : Extends first second) (h' : Extends second third) : Extends first third :=
  ⟨h.keeps.trans h'.keeps, fun hdistinct => h'.distinct (h.distinct hdistinct)⟩

/-- A file that is spelled differently from all completed ones may be added to them. -/
theorem append {files : List String} {file : String} (hfresh : normalizePath file ∉ files.map normalizePath) :
    Extends files (files ++ [file]) where
  keeps := List.prefix_append files [file]
  distinct hdistinct := by
    unfold DistinctPaths
    rw [List.map_append, List.map_singleton]
    refine List.nodup_append.mpr ⟨hdistinct, List.pairwise_singleton _ _, fun path hpath other hother heq => ?_⟩
    rw [heq, List.mem_singleton.mp hother] at hpath
    exact hfresh hpath

end Extends

/-- A file that an iteration chooses is not spelled like any that was completed before. -/
theorem survey_fresh {who : Collaborators η} {cfg : RunConfig} {sample : QualitySample} {target : Target} {r r' : Run} {w w' : World η}
    (h : survey who cfg r w = ((.ok (.chosen sample target), r'), w')) :
    normalizePath target.file ∉ r.state.filesCompleted.map normalizePath := by
  have hsurvey := (@ensures_survey η who cfg r.state.filesCompleted).holds r w rfl
  rw [h] at hsurvey
  exact hsurvey.2 _ _ rfl

/-- An iteration keeps the completed files and adds no file to them that is spelled like one of them. -/
theorem iterate_extends (who : Collaborators η) (cfg : RunConfig) (r : Run) (w : World η) :
    Extends r.state.filesCompleted (iterate who cfg r w).1.2.state.filesCompleted := by
  rcases @iterate_completed η who cfg r w with hkept | ⟨target, ⟨hchosen, -, -⟩, hadded⟩
  · rw [hkept]
    exact .refl _
  · rw [hadded]
    exact .append (survey_fresh hchosen)

end QualityGate
