import QualityGate.Proofs.Invariants
import QualityGate.Proofs.RewriteStep

/-!
# The iterations of a run

A run is a course of iterations, each of which begins where the one before it has left off (`Course`), and there are five ways for it to
stop (`Stop`). An iteration that chooses a file leaves the file, and the metrics that it was chosen under, to the next one, whatever
else it does. So an iteration ends without progress exactly when it chooses what the one before it has chosen
(`endsWith_noProgress_iff`), and then it has done nothing but look.
-/

namespace QualityGate

open Refactor RunAction

variable {η α β : Type}

/-! ## The last choice -/

/-- What a state tells of the last choice: the file, and the metrics that it was chosen under. -/
def RefactorState.last (s : RefactorState) : Option String × Option Metrics := (s.lastTarget, s.lastMetrics)

/-- What a choice leaves behind. -/
def choiceOf (sample : QualitySample) (target : Target) : Option String × Option Metrics := (some target.file, some sample.metrics)

/-- Whether a choice is an earlier one over again, under the same metrics. -/
def Repeats (last : Option String × Option Metrics) (sample : QualitySample) (target : Target) : Prop :=
  ∃ metrics, last = (some target.file, some metrics) ∧ metrics.same sample.metrics = true

/-- A run is stalled when its choice is the last one over again. -/
theorem stalled_iff {s : RefactorState} {sample : QualitySample} {target : Target} :
    stalled s sample.metrics target.file = true ↔ Repeats s.last sample target := by
  unfold stalled Repeats RefactorState.last
  cases s.lastMetrics with
  | none => simp
  | some metrics => simp [and_comm]

/-- A choice repeats another one of the same file under the same metrics. -/
theorem repeats_choiceOf {sample sample' : QualitySample} {target target' : Target} :
    Repeats (choiceOf sample' target') sample target ↔ target'.file = target.file ∧ sample'.metrics.same sample.metrics = true := by
  unfold Repeats choiceOf
  constructor
  · rintro ⟨metrics, heq, hsame⟩
    obtain ⟨hfile, hmetrics⟩ := Prod.mk.inj heq
    exact ⟨Option.some.inj hfile, Option.some.inj hmetrics ▸ hsame⟩
  · rintro ⟨hfile, hsame⟩
    exact ⟨sample'.metrics, by rw [hfile], hsame⟩

/-- The figures of the progress leave the last choice alone. -/
theorem withProgress_last {cfg : RunConfig} {now : Instant} {phase : Phase} (s : RefactorState) :
    (withProgress cfg now phase s).last = s.last := by
  dsimp only [withProgress, RefactorState.last]

/-- The notes that a run takes of what it sees leave the last choice alone. -/
theorem noted_last (last : Option String × Option Metrics) : Noted fun s => s.last = last where
  generated _ hs := hs
  measured _ _ hs := hs
  progress _ _ _ _ hs := (withProgress_last _).trans hs
  completed _ _ hs := hs

section Turning

variable {who : Collaborators η} {cfg : RunConfig} {sample : QualitySample} {target : Target}

theorem survey_last (r : Run) (w : World η) : (survey who cfg r w).1.2.state.last = r.state.last :=
  (noted_last r.state.last).survey.holds r w rfl

theorem processTarget_last (r : Run) (w : World η) : (processTarget who cfg sample target r w).1.2.state.last = r.state.last :=
  (noted_last r.state.last).processTarget.holds r w rfl

/-- The progress is noted with the time, and the world stays as it is. -/
theorem updateProgress_apply (phase : Phase) (r : Run) (w : World η) :
    updateProgress cfg phase r w = ((.ok (), { r with state := withProgress cfg w.clock phase r.state }), w) := rfl

/-- The turn to a phase leaves the state and the world alone. -/
theorem enter_apply (phase : Phase) (r : Run) (w : World η) :
    ∃ r', enter phase r w = ((.ok (), r'), w) ∧ r'.state = r.state := by
  refine ⟨_, rfl, ?_⟩
  dsimp only
  split <;> rfl

/-- The turn to a file tells whether the choice repeats the last one, and notes it as the last one. -/
theorem ensures_turnTo (last : Option String × Option Metrics) :
    Ensures (fun r (_ : World η) => r.state.last = last) (turnTo who cfg sample target) fun result r _ =>
      r.state.last = choiceOf sample target ∧ ∀ again, result = .ok again → (again = true ↔ Repeats last sample target) := by
  have hshown : ∀ again : Bool, Ensures (fun r _ => r.state.last = choiceOf sample target)
      (do act (who.showProgress (progressBlock (← run).state (some target))); return again : RunAction η Bool)
      fun result r _ => r.state.last = choiceOf sample target ∧ ∀ told, result = .ok told → told = again := by
    intro again
    refine Ensures.run_bind fun seen => ?_
    refine (@Ensures.act η Unit (fun r _ => r.state.last = choiceOf sample target ∧ r = seen)
      (fun _ r _ => r.state.last = choiceOf sample target) _ fun _ _ hr => hr.1).bind (fun _ => ?_) fun _ _ _ hr => ⟨hr, nofun⟩
    exact Ensures.pure fun _ _ hr => ⟨hr, fun _ heq => (Except.ok.inj heq).symm⟩
  have hturned : ∀ again : Bool, Ensures (fun _ _ => True) (do
        changeState fun s =>
          { s with currentFile := some target.file, lastTarget := some target.file, lastMetrics := some sample.metrics }
        act (who.showProgress (progressBlock (← run).state (some target)))
        return again : RunAction η Bool)
      fun result r _ => r.state.last = choiceOf sample target ∧ ∀ told, result = .ok told → told = again :=
    fun again => Ensures.changeState_bind (fun _ _ _ => rfl) (hshown again)
  have hnoted : Ensures (fun r (_ : World η) => r.state.last = last) (do
        let again := stalled (← run).state sample.metrics target.file
        changeState fun s =>
          { s with currentFile := some target.file, lastTarget := some target.file, lastMetrics := some sample.metrics }
        act (who.showProgress (progressBlock (← run).state (some target)))
        return again : RunAction η Bool) fun result r _ =>
      r.state.last = choiceOf sample target ∧ ∀ again, result = .ok again → (again = true ↔ Repeats last sample target) := by
    refine Ensures.run_bind fun seen => ⟨fun r w hr => ?_⟩
    obtain ⟨hlast, rfl⟩ := hr
    obtain ⟨hchoice, htold⟩ := (hturned (stalled r.state sample.metrics target.file)).holds r w trivial
    refine ⟨hchoice, fun again heq => ?_⟩
    rw [htold again heq, stalled_iff, hlast]
  unfold turnTo
  dsimp only
  split
  · refine ⟨fun r w hlast => ?_⟩
    obtain ⟨r', henter, hstate⟩ := @enter_apply η .buildFixes { r with state := withProgress cfg w.clock .buildFixes r.state } w
    rw [bind_apply, updateProgress_apply, goOn_ok, bind_apply, henter, goOn_ok]
    exact hnoted.holds r' w ((congrArg RefactorState.last hstate).trans ((withProgress_last _).trans hlast))
  · exact hnoted

end Turning

/-! ## What the work on a file can come to -/

/-- Whether an action gives nothing but what meets a condition. -/
def Returns (P : α → Prop) (a : RunAction η α) : Prop := ∀ r w x, (a r w).1.1 = .ok x → P x

namespace Returns

variable {P : α → Prop} {Q : β → Prop}

theorem pure {x : α} (h : P x) : Returns P (Pure.pure x : RunAction η α) := fun _ _ _ heq => Except.ok.inj heq ▸ h

theorem throw (failure : Failure) : Returns P (MonadExcept.throw failure : RunAction η α) := fun _ _ _ heq => nomatch heq

/-- Two actions in a row give what the second gives, behind what the first may give. -/
theorem bind {a : RunAction η α} {f : α → RunAction η β} (ha : Returns P a) (hf : ∀ x, P x → Returns Q (f x)) :
    Returns Q (a >>= f) := by
  intro r w y heq
  rw [bind_apply] at heq
  rcases h : a r w with ⟨⟨result, r'⟩, w'⟩
  rw [h] at heq
  cases result with
  | error failure => cases heq
  | ok x => exact hf x (ha r w x (by rw [h])) r' w' y heq

/-- What comes at the end is what counts. -/
theorem last {a : RunAction η α} {f : α → RunAction η β} (hf : ∀ x, Returns Q (f x)) : Returns Q (a >>= f) :=
  @bind η α β (fun _ => True) Q a f (fun _ _ _ _ => trivial) fun x _ => hf x

/-- Looking how an action ends gives what the action gives, or its failure. -/
theorem observe {a : RunAction η α} (h : Returns P a) : Returns (fun result => ∀ x, result = .ok x → P x) (RunAction.observe a) :=
  fun r w result heq x hx => h r w x (by
    rw [← hx]
    exact Except.ok.inj heq)

variable {who : Collaborators η} {cfg : RunConfig} {sample : QualitySample} {target : Target} {standing : Option String}
  {plan : RewritePlan}

/-- A request to the agent ends a run only to await a rewriting. -/
theorem askAgent (agent : RewriteAgent η) (request : RewriteRequest) (existed : Bool) :
    Returns (fun x => ∀ status, x = some status → status = .awaitingRewrite) (Refactor.askAgent who cfg agent request existed) := by
  refine last fun answer => ?_
  cases answer with
  | ok answer =>
    refine last fun _ => last fun _ => pure ?_
    intro status heq
    cases heq
  | error failure =>
    dsimp only
    split
    · exact throw _
    · refine last fun _ => last fun _ => last fun _ => pure ?_
      intro status heq
      exact (Option.some.inj heq).symm

/-- The check of the build ends a run only to await a rewriting. -/
theorem verifyRewrite (awaiting : Bool) :
    Returns (fun x => ∀ status, x = .stopped status → status = .awaitingRewrite) (Refactor.verifyRewrite who awaiting) := by
  refine last fun _ => last fun build => pure ?_
  intro status heq
  cases heq

/-- A rewriting ends a run only to await one. -/
theorem requestRewrite (request : RewriteRequest) (existed : Bool) :
    Returns (fun x => ∀ status, x = .stopped status → status = .awaitingRewrite)
      (Refactor.requestRewrite who cfg request existed) := by
  unfold Refactor.requestRewrite
  refine last fun _ => last fun _ => ?_
  split
  · exact verifyRewrite true
  · refine (askAgent _ _ _).bind fun status hstatus => ?_
    cases status with
    | none => exact verifyRewrite false
    | some status => exact pure fun _ heq => Rewritten.stopped.inj heq ▸ hstatus status rfl

/-- Where a rewrite stops before its build check, its agent has failed. -/
theorem rewriteAndCheck :
    Returns (fun x => ∀ status, x = .stopped status → status = .awaitingRewrite)
      (Refactor.rewriteAndCheck who cfg sample target standing plan) := by
  have hcomplete : ∀ rewrite, Returns (fun x => ∀ status, x = .stopped status → status = .awaitingRewrite)
      (completeRewrite who cfg sample target standing.isSome rewrite) := by
    intro rewrite
    unfold completeRewrite
    dsimp only
    split
    · exact verifyRewrite false
    · exact last fun _ => requestRewrite _ _
  refine last fun _ => last fun rewrite => ?_
  split
  · exact last fun _ => hcomplete rewrite
  · exact hcomplete rewrite

/-- What is done about the outcome of a build does not end a run for want of progress. -/
theorem concludeBuild (file : String) (existed awaiting : Bool) (build : BuildCheck) :
    Returns (fun x => ∀ status, x = .stopped status → status ≠ .noProgress)
      (Refactor.concludeBuild cfg file existed awaiting build : RunAction η Attempted) := by
  unfold Refactor.concludeBuild
  dsimp only
  split
  · exact last fun _ => pure nofun
  · refine last fun _ => last fun _ => last fun _ => pure ?_
    intro status heq
    rw [← Attempted.stopped.inj heq]
    decide

/-- The work on a target does not end a run for want of progress. -/
theorem rewriteTarget :
    Returns (fun x => ∀ status, x = .stopped status → status ≠ .noProgress)
      (Refactor.rewriteTarget who cfg sample target standing plan) := by
  have hattempt : Returns (fun x => ∀ status, x = .stopped status → status ≠ .noProgress)
      (attempt who cfg sample target standing plan) := by
    refine rewriteAndCheck.bind fun rewritten hrewritten => ?_
    cases rewritten with
    | checked awaiting build => exact concludeBuild _ _ _ _
    | stopped status =>
      obtain rfl := hrewritten status rfl
      refine pure fun status heq => ?_
      rw [← Attempted.stopped.inj heq]
      decide
  refine last fun _ => hattempt.observe.bind fun result hresult => ?_
  cases result with
  | error failure => exact last fun _ => throw _
  | ok attempted => exact pure (hresult attempted rfl)

/-- A survey that ends the run ends it as complete. -/
theorem survey : Returns (fun x => ∀ status, x = .ended status → status = .complete) (Refactor.survey who cfg) := by
  have hended : Returns (fun x => ∀ status, x = .ended status → status = .complete)
      (return .ended .complete : RunAction η Survey) := pure fun _ heq => (Survey.ended.inj heq).symm
  have hchoose : ∀ sample, Returns (fun x => ∀ status, x = .ended status → status = .complete) (choose who cfg sample) := by
    refine fun sample => last fun seen => ?_
    split
    · exact last fun _ => last fun _ => last fun _ => hended
    · exact pure nofun
  refine last fun _ => last fun _ => last fun sample => last fun _ => last fun _ => last fun _ => ?_
  split
  · exact last fun _ => last fun _ => last fun _ => hended
  · split
    · exact last fun _ => hchoose sample
    · exact hchoose sample

/-- The work on a file never ends without progress: that is found out before it begins. -/
theorem processTarget : Returns (fun x => x ≠ some .noProgress) (Refactor.processTarget who cfg sample target) := by
  refine last fun standing => last fun seen => ?_
  dsimp only
  split
  · exact last fun _ => last fun _ => pure nofun
  · refine rewriteTarget.bind fun attempted hattempted => ?_
    match attempted with
    | .stopped status => exact pure fun heq => hattempted status rfl (Option.some.inj heq)
    | .built true => exact last fun _ => pure nofun
    | .built false => exact last fun _ => pure nofun

end Returns

/-! ## Iterations -/

/-- An iteration: whom its run works with, what the run is to do, and where the iteration begins. -/
structure Iteration (η : Type) where
  who : Collaborators η
  cfg : RunConfig
  run : Run
  world : World η

namespace Iteration

variable {it : Iteration η} {sample : QualitySample} {target : Target}

/-- What an iteration comes to. -/
def ended (it : Iteration η) : (Except Failure (Option RefactorStatus) × Run) × World η := iterate it.who it.cfg it.run it.world

/-- Whether an iteration ends the run with a status. -/
def EndsWith (it : Iteration η) (status : RefactorStatus) : Prop := it.ended.1.1 = .ok (some status)

/-- Whether an iteration chooses a file by a measurement. -/
def Selects (it : Iteration η) (sample : QualitySample) (target : Target) : Prop :=
  (survey it.who it.cfg it.run it.world).1.1 = .ok (.chosen sample target)

/-- Whether an iteration turns to a file that it has chosen, and what it then knows. -/
inductive Turns (it : Iteration η) (sample : QualitySample) (target : Target) (again : Bool) (r : Run) (w : World η) : Prop where
  | intro {r₁ : Run} {w₁ : World η} (chosen : survey it.who it.cfg it.run it.world = ((.ok (.chosen sample target), r₁), w₁))
      (turned : turnTo it.who it.cfg sample target r₁ w₁ = ((.ok again, r), w))

/-- An iteration chooses one file, by one measurement. -/
theorem Selects.unique {sample' : QualitySample} {target' : Target} (h : it.Selects sample target) (h' : it.Selects sample' target') :
    sample = sample' ∧ target = target' := Survey.chosen.inj (Except.ok.inj (h.symm.trans h'))

/-- An iteration turns to a file that it has chosen. -/
theorem Turns.selects {again : Bool} {r : Run} {w : World η} (h : it.Turns sample target again r w) : it.Selects sample target := by
  obtain ⟨chosen, -⟩ := h
  exact congrArg (·.1.1) chosen

/-- An iteration knows that its choice repeats the last one that it was told of. -/
theorem Turns.again_iff {again : Bool} {r : Run} {w : World η} (h : it.Turns sample target again r w) :
    again = true ↔ Repeats it.run.state.last sample target := by
  obtain ⟨chosen, turned⟩ := h
  have hlast := @survey_last η it.who it.cfg it.run it.world
  rw [chosen] at hlast
  rw [← hlast]
  exact ((ensures_turnTo _).holds _ _ rfl).2 again (congrArg (·.1.1) turned)

/-- With a choice over again an iteration is at its end. -/
theorem Turns.ended_again {r : Run} {w : World η} (h : it.Turns sample target true r w) :
    it.ended = ((.ok (some .noProgress),
      { r with message := s!"No progress: {target.file} was selected again with unchanged metrics" }), w) := by
  obtain ⟨chosen, turned⟩ := h
  unfold ended iterate
  rw [bind_apply, chosen, goOn_ok]
  dsimp only
  rw [bind_apply, turned]
  rfl

/-- With another choice an iteration goes on to the work on it. -/
theorem Turns.ended_other {r : Run} {w : World η} (h : it.Turns sample target false r w) :
    it.ended = processTarget it.who it.cfg sample target r w := by
  obtain ⟨chosen, turned⟩ := h
  unfold ended iterate
  rw [bind_apply, chosen, goOn_ok]
  dsimp only
  rw [bind_apply, turned]
  rfl

/-- An iteration ends without progress exactly when its choice repeats the last one that it was told of. -/
theorem Turns.endsWith_noProgress_iff {again : Bool} {r : Run} {w : World η} (h : it.Turns sample target again r w) :
    it.EndsWith .noProgress ↔ Repeats it.run.state.last sample target := by
  rw [← h.again_iff]
  unfold EndsWith
  cases again with
  | true =>
    rw [h.ended_again]
    exact iff_of_true rfl rfl
  | false =>
    rw [h.ended_other]
    exact iff_of_false (fun heq => Returns.processTarget r w _ heq rfl) Bool.false_ne_true

/-- A choice is noted as the last one, however the iteration goes on. -/
theorem Selects.ended_last (h : it.Selects sample target) : it.ended.1.2.state.last = choiceOf sample target := by
  unfold Selects at h
  rcases hsurvey : survey it.who it.cfg it.run it.world with ⟨⟨surveyed, r⟩, w⟩
  rw [hsurvey] at h
  obtain rfl : surveyed = .ok (.chosen sample target) := h
  have hturned := (@ensures_turnTo η it.who it.cfg sample target r.state.last).holds r w rfl
  unfold ended iterate
  rw [bind_apply, hsurvey, goOn_ok]
  dsimp only
  rw [bind_apply]
  rcases hturn : turnTo it.who it.cfg sample target r w with ⟨⟨told, r'⟩, w'⟩
  rw [hturn] at hturned
  cases told with
  | error failure => exact hturned.1
  | ok again =>
    cases again with
    | true => exact hturned.1
    | false => exact (processTarget_last r' w').trans hturned.1

/-- An iteration that chooses a file turns to it, unless showing it fails. -/
theorem Selects.turns_or_fails (h : it.Selects sample target) :
    (∃ again r w, it.Turns sample target again r w) ∨ ∃ failure, it.ended.1.1 = .error failure := by
  unfold Selects at h
  rcases hsurvey : survey it.who it.cfg it.run it.world with ⟨⟨surveyed, r⟩, w⟩
  rw [hsurvey] at h
  obtain rfl : surveyed = .ok (.chosen sample target) := h
  rcases hturned : turnTo it.who it.cfg sample target r w with ⟨⟨told, r'⟩, w'⟩
  cases told with
  | ok again => exact .inl ⟨again, r', w', hsurvey, hturned⟩
  | error failure =>
    refine .inr ⟨failure, ?_⟩
    unfold ended iterate
    rw [bind_apply, hsurvey, goOn_ok]
    dsimp only
    rw [bind_apply, hturned, goOn_error]

/-- Without a choice the last one stays noted, and the iteration ends the run as complete, unless it fails. -/
theorem ended_of_not_selects (h : ∀ sample target, ¬it.Selects sample target) :
    it.ended.1.2.state.last = it.run.state.last ∧ ∀ x, it.ended.1.1 = .ok x → x = some .complete := by
  have hlast := @survey_last η it.who it.cfg it.run it.world
  have hcomplete := @Returns.survey η it.who it.cfg it.run it.world
  unfold Selects at h
  unfold ended iterate
  rw [bind_apply]
  rcases hsurvey : survey it.who it.cfg it.run it.world with ⟨⟨surveyed, r⟩, w⟩
  rw [hsurvey] at h hlast hcomplete
  cases surveyed with
  | error failure => exact ⟨hlast, nofun⟩
  | ok surveyed =>
    rw [goOn_ok]
    cases surveyed with
    | chosen sample target => exact absurd rfl (h sample target)
    | ended status =>
      refine ⟨hlast, fun x heq => ?_⟩
      rw [← hcomplete _ rfl status rfl]
      exact (Except.ok.inj heq).symm

/-- An iteration that ends without progress has chosen a file over again. -/
theorem EndsWith.turns_again (h : it.EndsWith .noProgress) : ∃ sample target r w, it.Turns sample target true r w := by
  by_cases hselects : ∃ sample target, it.Selects sample target
  · obtain ⟨sample, target, hselects⟩ := hselects
    rcases hselects.turns_or_fails with ⟨again, r, w, hturns⟩ | ⟨failure, hfails⟩
    · obtain rfl := hturns.again_iff.mpr (hturns.endsWith_noProgress_iff.mp h)
      exact ⟨sample, target, r, w, hturns⟩
    · cases hfails.symm.trans h
  · have hended := (ended_of_not_selects fun sample target hchosen => hselects ⟨sample, target, hchosen⟩).2 _ h
    cases hended

/-- An iteration that goes on to the next one has chosen a file. -/
theorem selects_of_goesOn (h : it.ended.1.1 = .ok none) : ∃ sample target, it.Selects sample target := by
  by_contra hnone
  cases (ended_of_not_selects fun sample target hselects => hnone ⟨sample, target, hselects⟩).2 _ h

end Iteration

/-! ## The course of a run -/

section Course

variable (who : Collaborators η) (cfg : RunConfig)

/-- The iteration that a run begins next, unless it is canceled. -/
inductive Begins (r : Run) (w : World η) : Iteration η → Prop where
  | intro {r₁ : Run} {w₁ : World η} (uncanceled : checkCanceled who.pause r w = ((.ok (), r₁), w₁)) :
      Begins r w ⟨who, cfg, { r₁ with iterations := r₁.iterations + 1 }, w₁⟩

/-- The iterations that a run has behind it, the latest first, and where they have led to. -/
inductive Course (start : Run) (w₀ : World η) : List (Iteration η) → Run → World η → Prop where
  | begin : Course start w₀ [] start w₀
  | next {past : List (Iteration η)} {it : Iteration η} {r r₁ : Run} {w w₁ w₂ : World η} (course : Course start w₀ past r w)
      (begins : Begins who cfg r w it) (goesOn : it.ended = ((.ok none, r₁), w₁))
      (saved : (who.save r₁.state).run w₁ = (.ok (), w₂)) : Course start w₀ (it :: past) r₁ w₂

/-- Whether an iteration is one of a run, behind some others. -/
inductive Occurs (start : Run) (w₀ : World η) (past : List (Iteration η)) (it : Iteration η) : Prop where
  | intro {r : Run} {w : World η} (course : Course who cfg start w₀ past r w) (begins : Begins who cfg r w it)
      (within : past.length < budgetOf cfg.maxIterations)

/-- How the iterations of a run come to an end: with the budget, before the next one, with one that ends or fails, or with a state that
cannot be saved. -/
inductive Stop (start : Run) (w₀ : World η) : List (Iteration η) → (Except Failure RefactorStatus × Run) × World η → Prop where
  | spent {past : List (Iteration η)} {r : Run} {w : World η} (course : Course who cfg start w₀ past r w) (message : String) :
      Stop start w₀ past ((.ok .budgetExhausted, { r with message }), w)
  | unbegun {past : List (Iteration η)} {r r₁ : Run} {w w₁ : World η} {failure : Failure} (course : Course who cfg start w₀ past r w)
      (canceled : checkCanceled who.pause r w = ((.error failure, r₁), w₁)) : Stop start w₀ past ((.error failure, r₁), w₁)
  | ended {past : List (Iteration η)} {it : Iteration η} {r₁ : Run} {w₁ : World η} {status : RefactorStatus}
      (occurs : Occurs who cfg start w₀ past it) (ends : it.ended = ((.ok (some status), r₁), w₁)) :
      Stop start w₀ (it :: past) ((.ok status, r₁), w₁)
  | failed {past : List (Iteration η)} {it : Iteration η} {r₁ : Run} {w₁ : World η} {failure : Failure}
      (occurs : Occurs who cfg start w₀ past it) (fails : it.ended = ((.error failure, r₁), w₁)) :
      Stop start w₀ (it :: past) ((.error failure, r₁), w₁)
  | unsaved {past : List (Iteration η)} {it : Iteration η} {r₁ : Run} {w₁ w₂ : World η} {failure : Failure}
      (occurs : Occurs who cfg start w₀ past it) (goesOn : it.ended = ((.ok none, r₁), w₁))
      (unsaved : (who.save r₁.state).run w₁ = (.error failure, w₂)) : Stop start w₀ (it :: past) ((.error failure, r₁), w₂)

end Course

section Iterating

variable {who : Collaborators η} {cfg : RunConfig} {start r : Run} {w₀ w : World η} {past : List (Iteration η)} {it : Iteration η}

/-- The iterations of a run have its collaborators and its configuration. -/
theorem Begins.who_eq (h : Begins who cfg r w it) : it.who = who ∧ it.cfg = cfg := by
  cases h
  exact ⟨rfl, rfl⟩

/-- The check for a cancellation leaves the run as it is. -/
theorem Begins.state_eq (h : Begins who cfg r w it) : it.run.state = r.state := by
  obtain ⟨uncanceled⟩ := h
  have hsteady : Steady who fun r' (_ : World η) => r'.state = r.state := Steady.ofState fun s => s = r.state
  have hkept := hsteady.checkCanceled.holds r w rfl
  rw [uncanceled] at hkept
  exact hkept

/-- Unless the user has canceled, a run goes on to its next iteration. -/
theorem begins_of_uncanceled {w₁ : World η} (pauses : who.pause.run w = (.ok (), w₁)) (uncanceled : w₁.canceled = false) :
    Begins who cfg r w ⟨who, cfg, { r with iterations := r.iterations + 1 }, w₁⟩ := by
  refine .intro ?_
  unfold checkCanceled
  rw [bind_apply, act_apply pauses, goOn_ok, bind_apply]
  show (if w₁.canceled = true then _ else _ : RunAction η Unit) r w₁ = _
  rw [uncanceled]
  rfl

/-- Iterating begins with the next iteration and goes on behind it. -/
theorem iterations_begins (h : Begins who cfg r w it) (budget : Nat) :
    iterations who cfg (budget + 1) r w = goOn it.ended (fun
      | some status => return status
      | none => do
        act (who.save (← run).state)
        iterations who cfg budget) := by
  obtain ⟨uncanceled⟩ := h
  rw [iterations, bind_apply, uncanceled, goOn_ok]
  show (iterate who cfg >>= _ : RunAction η RefactorStatus) _ _ = _
  rw [bind_apply]
  rfl

/-- From where the course of a run has led to, its iterating goes on. -/
theorem Course.iterations_eq (h : Course who cfg start w₀ past r w) (budget : Nat) :
    iterations who cfg (past.length + budget) start w₀ = iterations who cfg budget r w := by
  induction h generalizing budget with
  | begin => rw [List.length_nil, Nat.zero_add]
  | @next past it r r₁ w w₁ w₂ course begins goesOn saved ih =>
    have hlength : (it :: past).length + budget = past.length + (budget + 1) := by
      rw [List.length_cons]
      omega
    rw [hlength, ih, iterations_begins begins, goesOn, goOn_ok]
    show (act (who.save r₁.state) >>= _ : RunAction η RefactorStatus) r₁ w₁ = _
    rw [bind_apply, act_apply saved, goOn_ok]

/-- A run stops in one of five ways, within its budget. -/
theorem Course.exists_stop (h : Course who cfg start w₀ past r w) {budget : Nat}
    (within : past.length + budget ≤ budgetOf cfg.maxIterations) : ∃ its, Stop who cfg start w₀ its (iterations who cfg budget r w) := by
  induction budget generalizing past r w with
  | zero => exact ⟨past, .spent h _⟩
  | succ budget ih =>
    rcases hcheck : checkCanceled who.pause r w with ⟨⟨checked, r₁⟩, w₁⟩
    cases checked with
    | error failure =>
      refine ⟨past, ?_⟩
      rw [iterations, bind_apply, hcheck]
      exact .unbegun h hcheck
    | ok =>
      have hbegins : Begins who cfg r w ⟨who, cfg, { r₁ with iterations := r₁.iterations + 1 }, w₁⟩ := .intro hcheck
      rw [iterations_begins hbegins]
      generalize hit : (⟨who, cfg, { r₁ with iterations := r₁.iterations + 1 }, w₁⟩ : Iteration η) = it at hbegins
      have hoccurs : Occurs who cfg start w₀ past it := ⟨h, hbegins, by omega⟩
      rcases hended : it.ended with ⟨⟨ended, r₂⟩, w₂⟩
      cases ended with
      | error failure => exact ⟨it :: past, .failed hoccurs hended⟩
      | ok status =>
        cases status with
        | some status => exact ⟨it :: past, .ended hoccurs hended⟩
        | none =>
          show ∃ its, Stop who cfg start w₀ its ((act (who.save r₂.state) >>= _ : RunAction η RefactorStatus) r₂ w₂)
          rw [bind_apply]
          rcases hsave : (who.save r₂.state).run w₂ with ⟨result, w₃⟩
          rw [act_apply hsave]
          cases result with
          | error failure => exact ⟨it :: past, .unsaved hoccurs hended hsave⟩
          | ok => exact ih (.next h hbegins hended hsave) (by rw [List.length_cons]; omega)

/-- The iterations of every run come to an end, within the budget. -/
theorem exists_stop (who : Collaborators η) (cfg : RunConfig) (start : Run) (w₀ : World η) :
    ∃ its, Stop who cfg start w₀ its (iterations who cfg (budgetOf cfg.maxIterations) start w₀) :=
  Course.begin.exists_stop (by rw [List.length_nil]; omega)

/-- The iteration that ends a run gives it its status. -/
theorem Occurs.iterations_eq (h : Occurs who cfg start w₀ past it) {status : RefactorStatus} (ends : it.EndsWith status) :
    iterations who cfg (budgetOf cfg.maxIterations) start w₀ = ((.ok status, it.ended.1.2), it.ended.2) := by
  obtain ⟨course, begins, within⟩ := h
  obtain ⟨budget, hbudget⟩ := Nat.exists_eq_add_of_lt within
  rw [hbudget, Nat.add_assoc, course.iterations_eq, iterations_begins begins]
  rcases hended : it.ended with ⟨⟨ended, r₁⟩, w₁⟩
  unfold Iteration.EndsWith at ends
  rw [hended] at ends
  obtain rfl : ended = .ok (some status) := ends
  rfl

/-- A run that ends without progress has stopped with an iteration that does. -/
theorem Stop.exists_noProgress {its : List (Iteration η)} {ended : (Except Failure RefactorStatus × Run) × World η}
    (h : Stop who cfg start w₀ its ended) (noProgress : ended.1.1 = .ok .noProgress) :
    ∃ past it, its = it :: past ∧ Occurs who cfg start w₀ past it ∧ it.EndsWith .noProgress := by
  cases h with
  | @ended past it r₁ w₁ status occurs ends =>
    obtain rfl := Except.ok.inj noProgress
    refine ⟨past, it, rfl, occurs, ?_⟩
    unfold Iteration.EndsWith
    rw [ends]
  | _ => cases noProgress

/-- The run ends without progress when one of its iterations does. -/
theorem exists_noProgress_iff : (∃ past it, Occurs who cfg start w₀ past it ∧ it.EndsWith .noProgress) ↔
    (iterations who cfg (budgetOf cfg.maxIterations) start w₀).1.1 = .ok .noProgress := by
  constructor
  · rintro ⟨past, it, hoccurs, hends⟩
    rw [hoccurs.iterations_eq hends]
  · intro hended
    obtain ⟨its, hstop⟩ := exists_stop who cfg start w₀
    obtain ⟨past, it, -, hiteration⟩ := hstop.exists_noProgress hended
    exact ⟨past, it, hiteration⟩

/-- Each iteration tells the next one what it has chosen. -/
theorem Course.last_eq (h : Course who cfg start w₀ past r w) :
    match past with
    | [] => r.state.last = start.state.last
    | before :: _ => ∃ sample target, before.Selects sample target ∧ r.state.last = choiceOf sample target := by
  cases h with
  | begin => rfl
  | next course begins goesOn saved =>
    obtain ⟨sample, target, hselects⟩ := Iteration.selects_of_goesOn (congrArg (·.1.1) goesOn)
    have hlast := hselects.ended_last
    rw [goesOn] at hlast
    exact ⟨sample, target, hselects, hlast⟩

/-- The context stays where it is. -/
theorem Course.contextPath_eq (h : Course who cfg start w₀ past r w) : r.state.contextPath = start.state.contextPath := by
  have hnoted : Noted fun s => s.contextPath = start.state.contextPath := by
    refine ⟨fun _ hs => hs, fun _ _ hs => hs, fun _ _ _ _ hs => ?_, fun _ _ hs => hs⟩
    dsimp only [withProgress]
    exact hs
  induction h with
  | begin => rfl
  | @next past it r r₁ w w₁ w₂ course begins goesOn saved ih =>
    have hkept := (@Noted.iterate η _ it.who it.cfg hnoted fun _ _ _ hs => hs).holds it.run it.world
      ((congrArg RefactorState.contextPath begins.state_eq).trans ih)
    change (it.ended).1.2.state.contextPath = _ at hkept
    rw [goesOn] at hkept
    exact hkept

end Iterating

/-! ## Nothing but looking -/

/-- By whom a project is surveyed and shown leaves the text at a path alone, whatever else they do. -/
structure Collaborators.LeavesText (who : Collaborators η) (path : String) : Prop where
  context : who.gauge.context.SparesText path
  measure : who.gauge.measure.SparesText path
  showProgress : ∀ text, (who.showProgress text).SparesText path
  pause : who.pause.SparesText path

section Looking

variable {who : Collaborators η} {cfg : RunConfig} {path context : String} {text : Option String}

/-- Whether the text at a path is a given one, and the context stands at another path. -/
def Apart (path context : String) (text : Option String) (r : Run) (w : World η) : Prop :=
  w.disk.text? path = text ∧ r.state.contextPath = context

/-- The steps of a survey leave the text alone. -/
theorem Apart.surveying (h : who.LeavesText path) : Surveying who (Apart path context text) where
  sameState hstate hr := ⟨hr.1, hstate ▸ hr.2⟩
  log _ _ _ := ⟨fun _ _ hr => hr⟩
  measure := Ensures.act fun _ w hr => ⟨(h.measure w).trans hr.1, hr.2⟩
  showProgress text := Ensures.act fun _ w hr => ⟨(h.showProgress text w).trans hr.1, hr.2⟩
  pause := Ensures.act fun _ w hr => ⟨(h.pause w).trans hr.1, hr.2⟩

/-- The note of the progress leaves the text alone. -/
theorem Apart.updateProgress (phase : Phase) :
    Maintains (Apart path context text) (Refactor.updateProgress cfg phase : RunAction η Unit) := by
  refine ⟨fun r w hr => ⟨hr.1, ?_⟩⟩
  have hcontext : (withProgress cfg w.clock phase r.state).contextPath = r.state.contextPath := by
    dsimp only [withProgress]
  exact hcontext.trans hr.2

/-- Making the context writes no file but its own. -/
theorem Apart.refreshContext (h : who.LeavesText path) (hcontext : Disk.key path ≠ Disk.key context) :
    Maintains (Apart path context text) (Refactor.refreshContext who) := by
  unfold Refactor.refreshContext
  refine Maintains.run.bind fun r => ?_
  split
  · have hmade : Maintains (Apart path context text) (act who.gauge.context) :=
      Ensures.act fun _ w hr => ⟨(h.context w).trans hr.1, hr.2⟩
    refine hmade.bind fun made => ?_
    refine Maintains.bind ((surveying h).change fun _ => ?_) fun _ => Ensures.run_bind fun seen => ⟨fun r w hr => ?_⟩
    · rfl
    · obtain ⟨hr, rfl⟩ := hr
      have hwritten : Maintains (Apart path context text)
          (act (Action.writeText r.state.contextPath r.contextMarkdown) : RunAction η Unit) := by
        rw [hr.2]
        exact Ensures.act fun _ w hr => ⟨(Action.sparesText_writeText hcontext _ w).trans hr.1, hr.2⟩
      have hgenerated : Maintains (Apart path context text)
          (changeState fun s => { s with contextGenerated := true } : RunAction η Unit) := Ensures.change fun _ _ hr => hr
      exact (hwritten.bind fun _ => hgenerated).holds r w hr
  · exact .pure _

/-- Up to the work on a file nothing is written but the context. -/
theorem Iteration.Turns.text_eq {it : Iteration η} {sample : QualitySample} {target : Target} {again : Bool} {r : Run} {w : World η}
    (h : it.Turns sample target again r w) (hcontext : Disk.key path ≠ Disk.key it.run.state.contextPath)
    (hleaves : it.who.LeavesText path) : w.disk.text? path = it.world.disk.text? path := by
  obtain ⟨chosen, turned⟩ := h
  have hsurveying : Surveying it.who (Apart path it.run.state.contextPath (it.world.disk.text? path)) := Apart.surveying hleaves
  have hsurvey := (@Surveying.survey η _ it.who it.cfg (fun _ => True) (fun _ _ => True) hsurveying
    (Apart.refreshContext hleaves hcontext) (fun _ _ _ _ => trivial) (fun _ _ => Ensures.change fun _ _ hr => hr) Apart.updateProgress
    fun _ _ _ _ _ _ _ => trivial).holds it.run it.world ⟨rfl, rfl⟩
  rw [chosen] at hsurvey
  have hturn : Maintains (Apart path it.run.state.contextPath (it.world.disk.text? path)) (turnTo it.who it.cfg sample target) :=
    hsurveying.turnTo Apart.updateProgress (Ensures.change fun _ _ hr => hr)
  exact (hturn.after hsurvey.1 turned).1

end Looking

/-! ## Iterations without progress -/

/-- Whether an iteration does not depend on whom a file would be rewritten with, and writes no text but that of the context. -/
structure Iteration.OnlyLooks (it : Iteration η) : Prop where
  unasked : ∀ load save rewriter verifyBuild agent showRequest measureFile,
    iterate { it.who with load, save, rewriter, verifyBuild, agent, showRequest, gauge := { it.who.gauge with measureFile } } it.cfg
      it.run it.world = it.ended
  unwritten : ∀ path, Disk.key path ≠ Disk.key (RefactorState.contextPathIn it.cfg.cacheDir) → it.who.LeavesText path →
    it.ended.2.disk.text? path = it.world.disk.text? path

/-- Whether a choice repeats the one before it in a run: that of the iteration before, or the one that the loaded state tells of. -/
def RepeatsPrevious (loaded : Option RefactorState) (past : List (Iteration η)) (sample : QualitySample) (target : Target) : Prop :=
  match past with
  | [] => ∃ s ∈ loaded, Repeats s.last sample target
  | before :: _ => ∃ sample' target', before.Selects sample' target' ∧ target'.file = target.file ∧
      sample'.metrics.same sample.metrics = true

/-- An iteration that finds its choice to be the last one over again only looks. -/
theorem Iteration.Turns.onlyLooks {it : Iteration η} {sample : QualitySample} {target : Target} {r : Run} {w : World η}
    (h : it.Turns sample target true r w) (hcontext : it.run.state.contextPath = RefactorState.contextPathIn it.cfg.cacheDir) :
    it.OnlyLooks where
  unasked load save rewriter verifyBuild agent showRequest measureFile := by
    obtain ⟨chosen, turned⟩ := h
    have hother : Turns ⟨{ it.who with
        load, save, rewriter, verifyBuild, agent, showRequest, gauge := { it.who.gauge with measureFile } }, it.cfg, it.run, it.world⟩
        sample target true r w := .intro chosen turned
    exact hother.ended_again.trans (Turns.ended_again (.intro chosen turned)).symm
  unwritten path hpath hleaves := by
    rw [h.ended_again]
    exact h.text_eq (hcontext ▸ hpath) hleaves

/-- Where a run goes on from that has loaded a state, or none. -/
def resume (cfg : RunConfig) (loaded : Option RefactorState) (now : Instant) : Run :=
  startFrom cfg (loaded.getD (RefactorState.initial cfg.cacheDir now))

/-- The record that an iteration begins with is repeated exactly when the previous choice is. -/
theorem Occurs.repeats_last_iff {who : Collaborators η} {cfg : RunConfig} {loaded : Option RefactorState} {now : Instant}
    {w : World η} {past : List (Iteration η)} {it : Iteration η} (h : Occurs who cfg (resume cfg loaded now) w past it)
    (sample : QualitySample) (target : Target) :
    Repeats it.run.state.last sample target ↔ RepeatsPrevious loaded past sample target := by
  obtain ⟨course, begins, -⟩ := h
  have hlast := course.last_eq
  rw [begins.state_eq]
  cases past with
  | nil =>
    replace hlast : _ = (resume cfg loaded now).state.last := hlast
    rw [hlast]
    cases loaded with
    | none => exact iff_of_false (fun ⟨_, heq, _⟩ => nomatch heq) fun ⟨_, hs, _⟩ => nomatch hs
    | some s =>
      refine ⟨fun h => ⟨s, rfl, h⟩, ?_⟩
      rintro ⟨s', hs, h⟩
      obtain rfl := Option.mem_some.mp hs
      exact h
  | cons before past =>
    obtain ⟨sample', target', hselects, hchoice⟩ := hlast
    rw [hchoice, repeats_choiceOf]
    refine ⟨fun h => ⟨sample', target', hselects, h⟩, fun ⟨_, _, hselects', h⟩ => ?_⟩
    obtain ⟨rfl, rfl⟩ := hselects.unique hselects'
    exact h

/-- In a run that goes on from a loaded state, or begins afresh, an iteration that turns to a file ends without progress exactly when its
choice repeats the previous one, and then it has done nothing but look. So no two iterations in a row work on one file under the same
metrics; and the run ends without progress exactly when one of its iterations does. -/
theorem noProgress_iff_repeatsPrevious {who : Collaborators η} {cfg : RunConfig} {loaded : Option RefactorState} {w₀ w : World η}
    (load : who.load.run w₀ = (.ok loaded, w)) :
    let start := resume cfg loaded w.clock
    (refactor who cfg).run w₀ = ((wholeRun who cfg start w).1.1, (wholeRun who cfg start w).2) ∧
    (∀ past it, Occurs who cfg start w past it → ∀ sample target again r w', it.Turns sample target again r w' →
      (it.EndsWith .noProgress ↔ RepeatsPrevious loaded past sample target) ∧ (it.EndsWith .noProgress → it.OnlyLooks)) ∧
    (∀ past before it, Occurs who cfg start w (before :: past) it → ∀ sample target r w' sample' target' r' w'',
      before.Turns sample' target' false r' w'' → it.Turns sample target false r w' →
        ¬(target'.file = target.file ∧ sample'.metrics.same sample.metrics = true)) ∧
    ((∃ past it, Occurs who cfg start w past it ∧ it.EndsWith .noProgress) ↔
      (iterations who cfg (budgetOf cfg.maxIterations) start w).1.1 = .ok .noProgress) := by
  intro start
  refine ⟨refactor_run load, fun past it hoccurs sample target again r w' hturns => ?_, ?_, exists_noProgress_iff⟩
  · refine ⟨hturns.endsWith_noProgress_iff.trans (hoccurs.repeats_last_iff sample target), fun hends => ?_⟩
    obtain rfl := hturns.again_iff.mpr (hturns.endsWith_noProgress_iff.mp hends)
    obtain ⟨course, begins, -⟩ := hoccurs
    refine hturns.onlyLooks ?_
    rw [begins.state_eq, course.contextPath_eq, begins.who_eq.2]
    rfl
  · intro past before it hoccurs sample target r w' sample' target' r' w'' hbefore hturns hrepeats
    have hagain := hturns.again_iff.mpr ((hoccurs.repeats_last_iff sample target).mpr ⟨sample', target', hbefore.selects, hrepeats⟩)
    cases hagain

namespace OneFinding

/-- Collaborators with an agent that answers and a build check that passes, while the finding stays. -/
def persisting : Collaborators Unit :=
  { who with
    verifyBuild := pure ⟨true, false, ""⟩
    agent := some fun _ => pure { sourceCode := "newer", testCode := none } }

def twice : RunConfig := { config with cacheDir := "/c", maxIterations := 2 }

def start : Run := resume twice none world.clock

def first : Iteration Unit := ⟨persisting, twice, { start with iterations := start.iterations + 1 }, world⟩

/-- The iteration behind the first one. -/
def second : Iteration Unit :=
  ⟨persisting, twice, { first.ended.1.2 with iterations := first.ended.1.2.iterations + 1 }, first.ended.2⟩

theorem first_goesOn : first.ended = ((.ok none, first.ended.1.2), first.ended.2) :=
  @eq_of_toOption _ _ first.ended _ (by decide +kernel)

theorem second_occurs : Occurs persisting twice start world [first] second := by
  have hfirst : Begins persisting twice start world first := begins_of_uncanceled rfl rfl
  have hsecond : Begins persisting twice first.ended.1.2 first.ended.2 second := begins_of_uncanceled rfl (by decide +kernel)
  exact .intro (.next .begin hfirst first_goesOn rfl) hsecond (by decide +kernel)

theorem second_ends : second.EndsWith .noProgress := by
  have hended := @eq_of_toOption _ _ second.ended (some .noProgress) (by decide +kernel)
  unfold Iteration.EndsWith
  rw [hended]

end OneFinding

open OneFinding in
/-- Where a finding stays behind a rewriting, the next iteration ends without progress: it chooses the file again. -/
theorem persistingFinding_noProgress :
    (∃ sample target, RepeatsPrevious none [first] sample target) ∧ second.OnlyLooks := by
  have hload : persisting.load.run world = (.ok none, world) := rfl
  have hspec := @noProgress_iff_repeatsPrevious Unit persisting twice none world world hload
  obtain ⟨sample, target, r, w, hturns⟩ := second_ends.turns_again
  have hiteration := hspec.2.1 [first] second second_occurs sample target true r w hturns
  exact ⟨⟨sample, target, hiteration.1.mp second_ends⟩, hiteration.2 second_ends⟩

end QualityGate
