import QualityGate.Proofs.Actions

/-!
# What a run keeps from its beginning to its end

A condition on the run and the world that each iteration keeps, and each note that is taken between iterations, holds until the end
of the run (`Invariant.wholeRun`). It holds whenever a state is saved, so a run does the same with another way to save states, as long
as that does the same with the states that keep the condition (`Invariant.wholeRun_save`).
-/

namespace QualityGate

open Refactor RunAction

variable {η α β : Type} {I : Run → World η → Prop}

/-- Whether an action keeps a condition, however it ends. -/
abbrev Maintains (I : Run → World η → Prop) (a : RunAction η α) : Prop := Ensures I a fun _ => I

namespace Maintains

theorem pure (x : α) : Maintains I (Pure.pure x : RunAction η α) := Ensures.pure fun _ _ h => h

theorem throw (failure : Failure) : Maintains I (MonadExcept.throw failure : RunAction η α) := Ensures.throw fun _ _ h => h

theorem run : Maintains I (RunAction.run : RunAction η Run) := Ensures.run fun _ _ h => h

theorem bind {a : RunAction η α} {f : α → RunAction η β} (ha : Maintains I a) (hf : ∀ x, Maintains I (f x)) :
    Maintains I (a >>= f) := Ensures.bind ha hf fun _ _ _ h => h

theorem observe {a : RunAction η α} (h : Maintains I a) : Maintains I (RunAction.observe a) := Ensures.observe h

/-- The condition holds of what an action ends in. -/
theorem after {a : RunAction η α} (h : Maintains I a) {r r' : Run} {w w' : World η} {result : Except Failure α} (hr : I r w)
    (ends : a r w = ((result, r'), w')) : I r' w' := by
  have hafter := h.holds r w hr
  rw [ends] at hafter
  exact hafter

end Maintains

/-- Going on in two ways comes to the same when they agree on where it goes on from. -/
theorem goOn_congr {ended : (Except Failure α × Run) × World η} {f g : α → RunAction η β}
    (h : ∀ x r w, ended = ((.ok x, r), w) → f x r w = g x r w) : goOn ended f = goOn ended g := by
  rcases ended with ⟨⟨result, r⟩, w⟩
  cases result with
  | ok x => exact h x r w rfl
  | error failure => rfl

/-! ## Actions that keep the clock -/

namespace Action.KeepsClock

/-- Putting a file back takes no time. -/
theorem restore (path : String) (existed : Bool) : KeepsClock (Refactor.restore path existed : Action η Unit) := by
  unfold Refactor.restore
  split
  · exact rename _ _
  · exact remove _

/-- Copying a file aside takes no time. -/
theorem backUp (path : String) (existed : Bool) : KeepsClock (Refactor.backUp path existed : Action η Unit) := by
  unfold Refactor.backUp
  split
  · exact copy _ _
  · exact pure _

/-- Writing an answer takes no time. -/
theorem writeAnswer (cfg : RunConfig) (request : RewriteRequest) (answer : AgentAnswer) :
    KeepsClock (Refactor.writeAnswer cfg request answer : Action η Unit) := by
  unfold Refactor.writeAnswer
  refine (writeText _ _).bind fun _ => ?_
  split
  · exact writeText _ _
  · exact pure _

end Action.KeepsClock

/-! ## What a survey comes to -/

/-- What holds behind a survey: a condition is kept, and a file that is chosen is so by a measurement that fits it. -/
def Surveyed (I : Run → World η → Prop) (Fits : QualitySample → Target → Prop) (result : Except Failure Survey) (r : Run)
    (w : World η) : Prop :=
  I r w ∧ ∀ sample target, result = .ok (.chosen sample target) → Fits sample target

namespace Surveyed

variable {Fits : QualitySample → Target → Prop}

/-- What comes before the choice keeps the condition, and where it fails nothing is chosen. -/
theorem before {a : RunAction η α} {f : α → RunAction η Survey} (ha : Maintains I a)
    (hf : ∀ x, Ensures I (f x) (Surveyed I Fits)) : Ensures I (a >>= f) (Surveyed I Fits) :=
  Ensures.bind ha hf fun _ _ _ hr => ⟨hr, fun _ _ heq => nomatch heq⟩

/-- A survey that ends the run keeps the condition, and nothing is chosen. -/
theorem ended (status : RefactorStatus) : Ensures I (return .ended status : RunAction η Survey) (Surveyed I Fits) :=
  Ensures.pure fun _ _ hr => ⟨hr, fun _ _ heq => nomatch Except.ok.inj heq⟩

end Surveyed

/-- Whether a condition asks nothing of a run but its state, and all by whom a project is surveyed keep it. -/
structure Surveying (who : Collaborators η) (I : Run → World η → Prop) : Prop where
  sameState : ∀ {r r' w}, r'.state = r.state → I r w → I r' w
  log : ∀ level message fields, Maintains I (act (Action.log level message fields) : RunAction η Unit)
  measure : Maintains I (act who.gauge.measure)
  showProgress : ∀ text, Maintains I (act (who.showProgress text))
  pause : Maintains I (act who.pause)

namespace Surveying

variable {who : Collaborators η} {cfg : RunConfig} {Shows : QualitySample → Prop} {Fits : QualitySample → Target → Prop}

theorem change (h : Surveying who I) {f : Run → Run} (hf : ∀ r, (f r).state = r.state) :
    Maintains I (RunAction.change f : RunAction η Unit) := Ensures.change fun r _ hr => h.sameState (hf r) hr

theorem tell (h : Surveying who I) (message : String) : Maintains I (RunAction.tell message : RunAction η Unit) :=
  h.change fun _ => rfl

/-- The turn to a phase keeps a condition on the state. -/
theorem enter (h : Surveying who I) (phase : Phase) : Maintains I (RunAction.enter phase : RunAction η Unit) := by
  refine h.change fun r => ?_
  split <;> rfl

/-- The look whether the run is canceled keeps a condition that the pause keeps. -/
theorem checkCanceled (h : Surveying who I) : Maintains I (RunAction.checkCanceled who.pause) := by
  have hworld : Maintains I (RunAction.act Action.world : RunAction η (World η)) := Ensures.act fun _ _ hr => hr
  refine h.pause.bind fun _ => hworld.bind fun w => ?_
  split
  · exact .throw _
  · exact .pure _

/-- The choice keeps a condition on the state, and what it chooses fits the measurement when each selection does. -/
theorem choose (h : Surveying who I) {sample : QualitySample}
    (hselect : ∀ r w target, I r w → select cfg r sample = .selected target → Fits sample target) :
    Ensures I (Refactor.choose who cfg sample) (Surveyed I Fits) := by
  refine Ensures.run_bind fun seen => ?_
  cases hchoice : select cfg seen sample with
  | exhausted reason =>
    have hended : Ensures I (do
        RunAction.act (who.showProgress (progressBlock (← RunAction.run).state none))
        RunAction.tell reason
        return .ended .complete : RunAction η Survey) (Surveyed I Fits) :=
      Surveyed.before .run fun _ => Surveyed.before (h.showProgress _) fun _ => Surveyed.before (h.tell _) fun _ => Surveyed.ended _
    exact hended.weaken (fun _ _ hr => hr.1) fun _ _ _ hr => hr
  | selected target =>
    refine Ensures.pure fun r w (hr : I r w ∧ r = seen) => ⟨hr.1, fun sample' target' heq => ?_⟩
    obtain ⟨rfl, rfl⟩ := Survey.chosen.inj (Except.ok.inj heq)
    obtain ⟨hkept, rfl⟩ := hr
    exact hselect _ _ _ hkept hchoice

/-- A survey keeps a condition when the context that is made and the notes that are taken of a measurement do. -/
theorem survey (h : Surveying who I) (hrefresh : Maintains I (refreshContext who))
    (hmeasure : ∀ w sample w', who.gauge.measure.run w = (.ok sample, w') → Shows sample)
    (hmeasured : ∀ sample, Shows sample → Maintains I (changeState (measured sample.metrics) : RunAction η Unit))
    (hprogress : ∀ phase, Maintains I (updateProgress cfg phase : RunAction η Unit))
    (hselect : ∀ r w sample target, I r w → Shows sample → select cfg r sample = .selected target → Fits sample target) :
    Ensures I (Refactor.survey who cfg) (Surveyed I Fits) := by
  have hsample : Ensures I (RunAction.act who.gauge.measure) fun result r w => I r w ∧ ∀ sample, result = .ok sample → Shows sample :=
    ⟨fun r w hr => ⟨h.measure.holds r w hr, fun sample heq => hmeasure w sample _ (Prod.ext heq rfl)⟩⟩
  refine Surveyed.before hrefresh fun _ => Surveyed.before h.checkCanceled fun _ => ?_
  refine hsample.bind (fun sample => Ensures.assume fun hshows => ?_) fun _ _ _ hr => ⟨hr.1, fun _ _ heq => nomatch heq⟩
  replace hshows : Shows sample := hshows sample rfl
  have hchoose : Ensures I (Refactor.choose who cfg sample) (Surveyed I Fits) :=
    h.choose fun r w target hr hchoice => hselect r w sample target hr hshows hchoice
  refine Surveyed.before (hmeasured sample hshows) fun _ => Surveyed.before (hprogress _) fun _ => Surveyed.before (h.enter _) fun _ => ?_
  split
  · exact Surveyed.before .run fun _ => Surveyed.before (h.showProgress _) fun _ => Surveyed.before (h.tell _) fun _ => Surveyed.ended _
  · split
    · exact Surveyed.before (h.log _ _ _) fun _ => hchoose
    · exact hchoose

/-- The turn to a file keeps a condition when the note of it does. -/
theorem turnTo (h : Surveying who I) (hprogress : ∀ phase, Maintains I (updateProgress cfg phase : RunAction η Unit))
    {sample : QualitySample} {target : Target} (hturned : Maintains I (changeState fun s =>
      { s with currentFile := some target.file, lastTarget := some target.file, lastMetrics := some sample.metrics } :
        RunAction η Unit)) : Maintains I (Refactor.turnTo who cfg sample target) := by
  have hshown : ∀ again : Bool, Maintains I (do
      changeState fun s =>
        { s with currentFile := some target.file, lastTarget := some target.file, lastMetrics := some sample.metrics }
      RunAction.act (who.showProgress (progressBlock (← RunAction.run).state (some target)))
      return again : RunAction η Bool) := fun again =>
    hturned.bind fun _ => Maintains.run.bind fun _ => (h.showProgress _).bind fun _ => .pure _
  unfold Refactor.turnTo
  dsimp only
  split
  · exact (hprogress _).bind fun _ => (h.enter _).bind fun _ => Maintains.run.bind fun r => hshown _
  · exact Maintains.run.bind fun r => hshown _

end Surveying

/-! ## What does not touch the state -/

/-- Whether a condition asks for nothing but the state of the run and the clock, and all whom the run works with keep it. -/
structure Steady (who : Collaborators η) (I : Run → World η → Prop) : Prop where
  congr : ∀ {r r' w w'}, r'.state = r.state → w'.clock = w.clock → I r w → I r' w'
  context : Maintains I (act who.gauge.context)
  measure : Maintains I (act who.gauge.measure)
  measureFile : ∀ file, Maintains I (act (who.gauge.measureFile file))
  save : ∀ s, Maintains I (act (who.save s))
  rewriter : ∀ input, Maintains I (act (who.rewriter input))
  verifyBuild : Maintains I (act who.verifyBuild)
  agent : ∀ agent ∈ who.agent, ∀ request, Maintains I (act (agent request))
  showProgress : ∀ text, Maintains I (act (who.showProgress text))
  showRequest : ∀ text, Maintains I (act (who.showRequest text))
  pause : Maintains I (act who.pause)

namespace Steady

variable {who : Collaborators η} {cfg : RunConfig}

theorem act (h : Steady who I) {a : Action η α} (ha : a.KeepsClock) : Maintains I (RunAction.act a) :=
  Ensures.act fun _ w hr => h.congr rfl (ha w) hr

/-- A condition on the state and the clock is one on the state, for the steps of a survey. -/
theorem surveying (h : Steady who I) : Surveying who I where
  sameState hstate hr := h.congr hstate rfl hr
  log _ _ _ := h.act (.log _ _ _)
  measure := h.measure
  showProgress := h.showProgress
  pause := h.pause

theorem change (h : Steady who I) {f : Run → Run} (hf : ∀ r, (f r).state = r.state) :
    Maintains I (RunAction.change f : RunAction η Unit) := h.surveying.change hf

theorem tell (h : Steady who I) (message : String) : Maintains I (RunAction.tell message : RunAction η Unit) := h.surveying.tell _

theorem enter (h : Steady who I) (phase : Phase) : Maintains I (RunAction.enter phase : RunAction η Unit) := h.surveying.enter _

theorem checkCanceled (h : Steady who I) : Maintains I (RunAction.checkCanceled who.pause) := h.surveying.checkCanceled

/-- The context is made anew within a condition that allows for the note of it. -/
theorem refreshContext (h : Steady who I)
    (hgenerated : Maintains I (changeState fun s => { s with contextGenerated := true } : RunAction η Unit)) :
    Maintains I (Refactor.refreshContext who) := by
  unfold Refactor.refreshContext
  refine Maintains.run.bind fun r => ?_
  split
  · refine h.context.bind fun context => ?_
    refine Maintains.bind (h.change fun r => ?_) fun _ => Maintains.run.bind fun _ => (h.act (.writeText _ _)).bind fun _ => hgenerated
    rfl
  · exact .pure _

theorem verifyRewrite (h : Steady who I) (awaiting : Bool) : Maintains I (Refactor.verifyRewrite who awaiting) :=
  h.checkCanceled.bind fun _ => h.verifyBuild.bind fun _ => .pure _

/-- A request to the agent keeps the condition, whatever becomes of its answer. -/
theorem askAgent (h : Steady who I) {agent : RewriteAgent η} (hagent : agent ∈ who.agent) (request : RewriteRequest) (existed : Bool) :
    Maintains I (Refactor.askAgent who cfg agent request existed) := by
  have hasked : Maintains I (RunAction.act (Action.observe (agent request))) := Ensures.act (h.agent agent hagent request).holds
  refine hasked.bind fun result => ?_
  cases result with
  | ok answer => exact h.checkCanceled.bind fun _ => (h.act (.writeAnswer _ _ _)).bind fun _ => .pure _
  | error failure =>
    dsimp only
    split
    · exact .throw _
    · exact (h.act (.restore _ _)).bind fun _ => (h.act (.log _ _ _)).bind fun _ => (h.tell _).bind fun _ => .pure _

/-- A rewriting keeps the condition, whoever does it. -/
theorem requestRewrite (h : Steady who I) (request : RewriteRequest) (existed : Bool) :
    Maintains I (Refactor.requestRewrite who cfg request existed) := by
  unfold Refactor.requestRewrite
  refine Maintains.bind (h.change fun r => ?_) fun _ => (h.showRequest _).bind fun _ => ?_
  · rfl
  · split
    · exact h.verifyRewrite true
    · rename_i agent hagent
      refine (h.askAgent hagent _ _).bind fun status => ?_
      cases status with
      | some status => exact .pure _
      | none => exact h.verifyRewrite false

/-- What is done about the outcome of a build keeps the condition. -/
theorem concludeBuild (h : Steady who I) (file : String) (existed awaiting : Bool) (build : BuildCheck) :
    Maintains I (Refactor.concludeBuild cfg file existed awaiting build : RunAction η Attempted) := by
  unfold Refactor.concludeBuild
  dsimp only
  split
  · exact (h.act (.remove _)).bind fun _ => .pure _
  · exact (h.act (.restore _ _)).bind fun _ => (h.act (.log _ _ _)).bind fun _ => (h.tell _).bind fun _ => .pure _

section Target

variable {sample : QualitySample} {target : Target} {standing : Option String} {plan : RewritePlan}

/-- What follows on a rewriting keeps the condition. -/
theorem completeRewrite (h : Steady who I) (existed : Bool) (rewrite : RewriteOutcome) :
    Maintains I (Refactor.completeRewrite who cfg sample target existed rewrite) := by
  unfold Refactor.completeRewrite
  dsimp only
  split
  · exact h.verifyRewrite false
  · exact Maintains.run.bind fun _ => h.requestRewrite _ _

/-- A rewriting with its build keeps the condition. -/
theorem rewriteAndCheck (h : Steady who I) : Maintains I (Refactor.rewriteAndCheck who cfg sample target standing plan) := by
  refine h.checkCanceled.bind fun _ => (h.rewriter _).bind fun rewrite => ?_
  split
  · exact (h.act (.log _ _ _)).bind fun _ => h.completeRewrite _ _
  · exact h.completeRewrite _ _

/-- A rewriting that is put back when it fails keeps the condition. -/
theorem attempt (h : Steady who I) : Maintains I (Refactor.attempt who cfg sample target standing plan) := by
  refine h.rewriteAndCheck.bind fun rewritten => ?_
  cases rewritten with
  | stopped status => exact .pure _
  | checked awaiting build => exact h.concludeBuild _ _ _ _

/-- The work on a target keeps the condition until the note of its completion. -/
theorem rewriteTarget (h : Steady who I) : Maintains I (Refactor.rewriteTarget who cfg sample target standing plan) := by
  refine (h.act (.backUp _ _)).bind fun _ => h.attempt.observe.bind fun result => ?_
  cases result with
  | error failure => exact (h.act (.restore _ _)).bind fun _ => .throw _
  | ok attempted => exact .pure _

/-- A rehearsal keeps the condition, as it completes nothing. -/
theorem rehearsal (h : Steady who I) (hdry : cfg.dryRun = true) : Maintains I (processTarget who cfg sample target) := by
  refine (h.act (.readText? _)).bind fun standing => Maintains.run.bind fun r => ?_
  dsimp only
  rw [if_pos hdry]
  refine (h.showProgress _).bind fun _ => Maintains.bind (h.change fun r => ?_) fun _ => .pure _
  rfl

/-- The work on a target keeps a condition that the note of its completion keeps. -/
theorem processTarget (h : Steady who I) (hconclude : ∀ file, Maintains I (concludeTarget who cfg file)) :
    Maintains I (Refactor.processTarget who cfg sample target) := by
  by_cases hdry : cfg.dryRun = true
  · exact h.rehearsal hdry
  · refine (h.act (.readText? _)).bind fun standing => Maintains.run.bind fun r => ?_
    dsimp only
    rw [if_neg hdry]
    refine h.rewriteTarget.bind fun attempted => ?_
    match attempted with
    | .stopped _ => exact .pure _
    | .built true => exact (h.tell _).bind fun _ => .pure _
    | .built false => exact (hconclude _).bind fun _ => .pure _

end Target

/-- A survey keeps a condition when the notes that are taken of a measurement do. -/
theorem survey {Shows : QualitySample → Prop} {Fits : QualitySample → Target → Prop} (h : Steady who I)
    (hgenerated : Maintains I (changeState fun s => { s with contextGenerated := true } : RunAction η Unit))
    (hmeasure : ∀ w sample w', who.gauge.measure.run w = (.ok sample, w') → Shows sample)
    (hmeasured : ∀ sample, Shows sample → Maintains I (changeState (measured sample.metrics) : RunAction η Unit))
    (hprogress : ∀ phase, Maintains I (updateProgress cfg phase : RunAction η Unit))
    (hselect : ∀ r w sample target, I r w → Shows sample → select cfg r sample = .selected target → Fits sample target) :
    Ensures I (Refactor.survey who cfg) (Surveyed I Fits) :=
  h.surveying.survey (h.refreshContext hgenerated) hmeasure hmeasured hprogress hselect

/-- An iteration keeps a condition that its survey, its turn to a file and what comes behind a rewriting keep. -/
theorem iterate (h : Steady who I) {Fits : QualitySample → Target → Prop}
    (hsurvey : Ensures I (Refactor.survey who cfg) (Surveyed I Fits))
    (hturn : ∀ sample target, Fits sample target → Maintains I (turnTo who cfg sample target))
    (hconclude : ∀ file, Maintains I (concludeTarget who cfg file)) : Maintains I (Refactor.iterate who cfg) := by
  refine hsurvey.bind (fun surveyed => Ensures.assume fun hfits => ?_) fun _ _ _ hr => hr.1
  cases surveyed with
  | ended status => exact Maintains.pure _
  | chosen sample target =>
    refine Maintains.bind (hturn sample target (hfits sample target rfl)) fun again => ?_
    cases again with
    | true => exact (h.tell _).bind fun _ => .pure _
    | false => exact h.processTarget hconclude

/-- A condition on nothing but the state of the run is not touched by those whom it works with. -/
theorem ofState (P : RefactorState → Prop) : Steady who fun r _ => P r.state where
  congr hstate _ hr := hstate ▸ hr
  context := ⟨fun _ _ hr => hr⟩
  measure := ⟨fun _ _ hr => hr⟩
  measureFile _ := ⟨fun _ _ hr => hr⟩
  save _ := ⟨fun _ _ hr => hr⟩
  rewriter _ := ⟨fun _ _ hr => hr⟩
  verifyBuild := ⟨fun _ _ hr => hr⟩
  agent _ _ _ := ⟨fun _ _ hr => hr⟩
  showProgress _ := ⟨fun _ _ hr => hr⟩
  showRequest _ := ⟨fun _ _ hr => hr⟩
  pause := ⟨fun _ _ hr => hr⟩

/-- A condition on nothing but the clock may be joined by one on the state of the run. -/
theorem withState {J : World η → Prop} (h : Steady who fun _ w => J w) (P : RefactorState → Prop) :
    Steady who fun r w => J w ∧ P r.state where
  congr := fun hstate hclock hr => ⟨@h.congr default default _ _ rfl hclock hr.1, hstate ▸ hr.2⟩
  context := ⟨fun r w hr => ⟨h.context.holds r w hr.1, hr.2⟩⟩
  measure := ⟨fun r w hr => ⟨h.measure.holds r w hr.1, hr.2⟩⟩
  measureFile file := ⟨fun r w hr => ⟨(h.measureFile file).holds r w hr.1, hr.2⟩⟩
  save s := ⟨fun r w hr => ⟨(h.save s).holds r w hr.1, hr.2⟩⟩
  rewriter input := ⟨fun r w hr => ⟨(h.rewriter input).holds r w hr.1, hr.2⟩⟩
  verifyBuild := ⟨fun r w hr => ⟨h.verifyBuild.holds r w hr.1, hr.2⟩⟩
  agent agent hagent request := ⟨fun r w hr => ⟨(h.agent agent hagent request).holds r w hr.1, hr.2⟩⟩
  showProgress text := ⟨fun r w hr => ⟨(h.showProgress text).holds r w hr.1, hr.2⟩⟩
  showRequest text := ⟨fun r w hr => ⟨(h.showRequest text).holds r w hr.1, hr.2⟩⟩
  pause := ⟨fun r w hr => ⟨h.pause.holds r w hr.1, hr.2⟩⟩

end Steady

/-! ## Notes -/

/-- Whether a condition on the state outlasts the notes that a run takes of what it sees and of the files that it completes. -/
structure Noted (P : RefactorState → Prop) : Prop where
  generated : ∀ s, P s → P { s with contextGenerated := true }
  measured : ∀ metrics s, P s → P (Refactor.measured metrics s)
  progress : ∀ cfg now phase s, P s → P (withProgress cfg now phase s)
  completed : ∀ files s, P s → P { s with filesCompleted := files }

namespace Noted

variable {P : RefactorState → Prop} {who : Collaborators η} {cfg : RunConfig}

/-- The figures of the progress may be noted within the condition. -/
theorem updateProgress (h : Noted P) (phase : Phase) :
    Maintains (fun r _ => P r.state) (Refactor.updateProgress cfg phase : RunAction η Unit) :=
  ⟨fun r w hr => h.progress cfg w.clock phase r.state hr⟩

/-- A survey takes no note that the condition forbids. -/
theorem survey (h : Noted P) : Maintains (fun r _ => P r.state) (Refactor.survey who cfg) :=
  (@Steady.survey η (fun r _ => P r.state) who cfg (fun _ => True) (fun _ _ => True) (Steady.ofState P)
    (Ensures.change fun _ _ hr => h.generated _ hr) (fun _ _ _ _ => trivial)
    (fun _ _ => Ensures.change fun _ _ hr => h.measured _ _ hr) h.updateProgress fun _ _ _ _ _ _ _ => trivial).weaken
      (fun _ _ hr => hr) fun _ _ _ hr => hr.1

/-- The note of a completed file is within the condition. -/
theorem concludeTarget (h : Noted P) (file : String) : Maintains (fun r _ => P r.state) (Refactor.concludeTarget who cfg file) := by
  have hsteady : Steady who fun r (_ : World η) => P r.state := Steady.ofState P
  unfold Refactor.concludeTarget
  refine (hsteady.measureFile file).bind fun sample => ?_
  split
  · refine Maintains.run.bind fun seen => ?_
    dsimp only
    split
    · exact Ensures.changeState_bind (fun _ _ hr => h.completed _ _ hr) (h.updateProgress _)
    · exact .pure _
  · exact hsteady.act (.log _ _ _)

/-- The work on a target keeps the condition. -/
theorem processTarget (h : Noted P) {sample : QualitySample} {target : Target} :
    Maintains (fun r _ => P r.state) (Refactor.processTarget who cfg sample target) :=
  (Steady.ofState P).processTarget h.concludeTarget

/-- An iteration keeps a condition that also allows for the note of the choice. -/
theorem iterate (h : Noted P) (hturned : ∀ file metrics s, P s →
    P { s with currentFile := some file, lastTarget := some file, lastMetrics := some metrics }) :
    Maintains (fun r _ => P r.state) (Refactor.iterate who cfg) := by
  have hsteady : Steady who fun r (_ : World η) => P r.state := Steady.ofState P
  have hsurvey : Ensures (fun r (_ : World η) => P r.state) (Refactor.survey who cfg)
      (Surveyed (fun r _ => P r.state) fun _ _ => True) := h.survey.weaken (fun _ _ hr => hr) fun _ _ _ hr => ⟨hr, fun _ _ _ => trivial⟩
  exact hsteady.iterate hsurvey
    (fun _ _ _ => hsteady.surveying.turnTo h.updateProgress (Ensures.change fun _ _ hr => hturned _ _ _ hr)) h.concludeTarget

end Noted

/-! ## Whole runs -/

/-- Whether all that a run consists of keeps a condition. -/
structure Invariant (who : Collaborators η) (cfg : RunConfig) (I : Run → World η → Prop) : Prop where
  checkCanceled : Maintains I (checkCanceled who.pause)
  count : Maintains I (change fun r => { r with iterations := r.iterations + 1 } : RunAction η Unit)
  iterate : Maintains I (Refactor.iterate who cfg)
  save : ∀ s, Maintains I (act (who.save s))
  tell : ∀ message, Maintains I (RunAction.tell message : RunAction η Unit)
  complete : Maintains I (updateProgress cfg .complete : RunAction η Unit)
  enter : Maintains I (RunAction.enter .complete : RunAction η Unit)
  log : ∀ level message fields, Maintains I (act (Action.log level message fields) : RunAction η Unit)

namespace Invariant

variable {who : Collaborators η} {cfg : RunConfig}

/-- The end of a run keeps what all that a run consists of keeps. -/
theorem finish (h : Invariant who cfg I) (status : RefactorStatus) : Maintains I (Refactor.finish who cfg status) := by
  unfold Refactor.finish
  split
  · exact h.complete.bind fun _ => h.enter.bind fun _ => Maintains.run.bind fun _ => (h.save _).bind fun _ => .pure _
  · exact Maintains.run.bind fun _ => (h.save _).bind fun _ => .pure _

/-- Iterations keep what all that a run consists of keeps, however many they may be. -/
theorem iterations (h : Invariant who cfg I) (budget : Nat) : Maintains I (Refactor.iterations who cfg budget) := by
  induction budget with
  | zero =>
    unfold Refactor.iterations
    exact (h.tell _).bind fun _ => .pure _
  | succ budget ih =>
    unfold Refactor.iterations
    refine h.checkCanceled.bind fun _ => h.count.bind fun _ => h.iterate.bind fun status => ?_
    cases status with
    | some status => exact .pure _
    | none => exact Maintains.run.bind fun _ => (h.save _).bind fun _ => ih

/-- The condition holds until the end of a run. -/
theorem wholeRun (h : Invariant who cfg I) : Maintains I (Refactor.wholeRun who cfg) := by
  unfold Refactor.wholeRun
  refine ((h.iterations _).bind fun status => h.finish status).observe.bind fun result => ?_
  cases result with
  | ok outcome => exact .pure _
  | error failure =>
    cases failure with
    | canceled message => exact Maintains.run.bind fun _ => (h.log _ _ _).bind fun _ => (h.tell _).bind fun _ => h.finish _
    | _ => exact .throw _

section Saving

variable {save : RefactorState → Action η Unit} {r : Run}

/-- The end of a run does the same with a way to save that saves these states alike. -/
theorem finish_save (h : Invariant who cfg I) (hsave : ∀ r w, I r w → save r.state = who.save r.state) (status : RefactorStatus)
    {w : World η} (hr : I r w) : Refactor.finish { who with save } cfg status r w = Refactor.finish who cfg status r w := by
  have hrest : ∀ r w, I r w → (do
      let r ← RunAction.run
      act (save r.state)
      return ⟨status, r.iterations, r.state, r.phases, r.requests, r.message⟩ : RunAction η RefactorOutcome) r w = (do
      let r ← RunAction.run
      act (who.save r.state)
      return ⟨status, r.iterations, r.state, r.phases, r.requests, r.message⟩ : RunAction η RefactorOutcome) r w := by
    intro r w hr
    show (act (save r.state) >>= _ : RunAction η RefactorOutcome) r w = (act (who.save r.state) >>= _ : RunAction η RefactorOutcome) r w
    rw [hsave r w hr]
  unfold Refactor.finish
  split
  · rw [bind_apply, bind_apply]
    refine goOn_congr fun _ r₁ w₁ h₁ => ?_
    have hr₁ := h.complete.after hr h₁
    rw [bind_apply, bind_apply]
    exact goOn_congr fun _ r₂ w₂ h₂ => hrest r₂ w₂ (h.enter.after hr₁ h₂)
  · exact hrest r w hr

/-- Iterations do the same with a way to save that saves these states alike. -/
theorem iterations_save (h : Invariant who cfg I) (hsave : ∀ r w, I r w → save r.state = who.save r.state) (budget : Nat)
    {w : World η} (hr : I r w) : Refactor.iterations { who with save } cfg budget r w = Refactor.iterations who cfg budget r w := by
  induction budget generalizing r w with
  | zero => rfl
  | succ budget ih =>
    unfold Refactor.iterations
    rw [bind_apply, bind_apply]
    refine goOn_congr fun _ r₁ w₁ h₁ => ?_
    have hr₁ := h.checkCanceled.after hr h₁
    rw [bind_apply, bind_apply]
    refine goOn_congr fun _ r₂ w₂ h₂ => ?_
    have hr₂ := h.count.after hr₁ h₂
    rw [bind_apply, bind_apply]
    refine goOn_congr fun status r₃ w₃ h₃ => ?_
    have hr₃ := h.iterate.after hr₂ h₃
    cases status with
    | some status => rfl
    | none =>
      show (act (save r₃.state) >>= _ : RunAction η RefactorStatus) r₃ w₃ =
        (act (who.save r₃.state) >>= _ : RunAction η RefactorStatus) r₃ w₃
      rw [hsave r₃ w₃ hr₃, bind_apply, bind_apply]
      exact goOn_congr fun _ r₄ w₄ h₄ => ih ((h.save _).after hr₃ h₄)

/-- A run does the same with another way to save states, as long as that saves the states that keep the condition alike. -/
theorem wholeRun_save (h : Invariant who cfg I) (hsave : ∀ r w, I r w → save r.state = who.save r.state) {w : World η} (hr : I r w) :
    Refactor.wholeRun { who with save } cfg r w = Refactor.wholeRun who cfg r w := by
  have hinner : (Refactor.iterations { who with save } cfg (budgetOf cfg.maxIterations) >>= Refactor.finish { who with save } cfg) r w =
      (Refactor.iterations who cfg (budgetOf cfg.maxIterations) >>= Refactor.finish who cfg) r w := by
    rw [bind_apply, bind_apply, h.iterations_save hsave _ hr]
    exact goOn_congr fun status r₁ w₁ h₁ => h.finish_save hsave status ((h.iterations _).after hr h₁)
  have hobserve : observe (Refactor.iterations { who with save } cfg (budgetOf cfg.maxIterations) >>= Refactor.finish { who with save } cfg)
      r w = observe (Refactor.iterations who cfg (budgetOf cfg.maxIterations) >>= Refactor.finish who cfg) r w := by
    unfold observe
    rw [hinner]
  unfold Refactor.wholeRun
  rw [bind_apply, bind_apply]
  refine (congrArg (goOn · _) hobserve).trans (goOn_congr fun result r₁ w₁ h₁ => ?_)
  have hr₁ := ((h.iterations _).bind h.finish).observe.after hr h₁
  cases result with
  | ok outcome => rfl
  | error failure =>
    cases failure with
    | canceled message =>
      dsimp only
      rw [bind_apply, bind_apply]
      refine goOn_congr fun _ r₂ w₂ h₂ => ?_
      have hr₂ := Maintains.run.after hr₁ h₂
      rw [bind_apply, bind_apply]
      refine goOn_congr fun _ r₃ w₃ h₃ => ?_
      have hr₃ := (h.log _ _ _).after hr₂ h₃
      rw [bind_apply, bind_apply]
      exact goOn_congr fun _ r₄ w₄ h₄ => h.finish_save hsave .canceled ((h.tell _).after hr₃ h₄)
    | _ => rfl

end Saving

end Invariant

/-! ## How a run ends -/

section Ending

variable {who : Collaborators η} {cfg : RunConfig} {r r' : Run} {w w' : World η} {outcome : RefactorOutcome}

/-- A run ends with the state that it has saved last. -/
theorem finish_eq_ok {status : RefactorStatus} (h : finish who cfg status r w = ((.ok outcome, r'), w')) :
    outcome.state = r'.state ∧ ∃ w₁, (who.save outcome.state).run w₁ = (.ok (), w') := by
  have hrest : ∀ {r w}, (do
      let r ← RunAction.run
      act (who.save r.state)
      return ⟨status, r.iterations, r.state, r.phases, r.requests, r.message⟩ : RunAction η RefactorOutcome) r w =
        ((.ok outcome, r'), w') → outcome.state = r'.state ∧ ∃ w₁, (who.save outcome.state).run w₁ = (.ok (), w') := by
    intro r w h
    obtain ⟨seen, _, _, hrun, h⟩ := bind_eq_ok.mp h
    cases hrun
    obtain ⟨_, _, _, hact, h⟩ := bind_eq_ok.mp h
    obtain ⟨hsaved, rfl⟩ := act_eq_ok.mp hact
    cases h
    exact ⟨rfl, w, hsaved⟩
  unfold finish at h
  split at h
  · obtain ⟨_, _, _, -, h⟩ := bind_eq_ok.mp h
    obtain ⟨_, _, _, -, h⟩ := bind_eq_ok.mp h
    exact hrest h
  · exact hrest h

/-- A run that ends well has come to its end. -/
theorem exists_finish (h : wholeRun who cfg r w = ((.ok outcome, r'), w')) :
    ∃ status r₁ w₁, finish who cfg status r₁ w₁ = ((.ok outcome, r'), w') := by
  unfold wholeRun at h
  obtain ⟨result, r₁, w₁, hobserved, h⟩ := bind_eq_ok.mp h
  cases result with
  | ok ended =>
    cases h
    obtain ⟨status, r₂, w₂, -, h⟩ := bind_eq_ok.mp (observe_eq_ok.mp hobserved)
    exact ⟨status, r₂, w₂, h⟩
  | error failure =>
    cases failure with
    | canceled message =>
      obtain ⟨_, _, _, -, h⟩ := bind_eq_ok.mp h
      obtain ⟨_, _, _, -, h⟩ := bind_eq_ok.mp h
      obtain ⟨_, _, _, -, h⟩ := bind_eq_ok.mp h
      exact ⟨_, _, _, h⟩
    | _ => cases h

/-- An iteration whose survey ends the run has ended with it. -/
theorem iterate_of_ended {status : RefactorStatus} (h : survey who cfg r w = ((.ok (.ended status), r'), w')) :
    iterate who cfg r w = ((.ok (some status), r'), w') := by
  unfold iterate
  rw [bind_apply, h]
  rfl

/-- A run whose iterations have come to a status ends as it finishes with that. -/
theorem wholeRun_of_finish {status : RefactorStatus} {r₁ : Run} {w₁ : World η}
    (hiterations : iterations who cfg (budgetOf cfg.maxIterations) r w = ((.ok status, r₁), w₁))
    (hfinish : finish who cfg status r₁ w₁ = ((.ok outcome, r'), w')) : wholeRun who cfg r w = ((.ok outcome, r'), w') := by
  have hended : observe (do finish who cfg (← iterations who cfg (budgetOf cfg.maxIterations))) r w = ((.ok (.ok outcome), r'), w') :=
    observe_eq_ok.mpr (bind_eq_ok.mpr ⟨status, r₁, w₁, hiterations, hfinish⟩)
  unfold wholeRun
  rw [bind_apply, hended]
  rfl

/-- A run goes on from the state that it loads. -/
theorem refactor_run {loaded : Option RefactorState} (hload : who.load.run w = (.ok loaded, w')) :
    (refactor who cfg).run w =
      let ended := wholeRun who cfg (startFrom cfg (loaded.getD (RefactorState.initial cfg.cacheDir w'.clock))) w'
      (ended.1.1, ended.2) := by
  unfold refactor
  rw [Action.run_bind, hload]
  rfl

end Ending

end QualityGate
