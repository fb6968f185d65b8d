import QualityGate.Proofs.Iterations

/-!
# The files of an answer

An agent answers a request with a source text and perhaps with tests. Each is written to its own file, but only the source file has a
backup. So the tests of an answer that was put in its place stand behind the iteration, whatever the build check says and whether the
user cancels (`Answered.tests_asBefore_iff`).
-/

namespace QualityGate

open Refactor RunAction

variable {η : Type}

/-! ## From the rewriter to the agent -/

namespace Refactor

/-- Shows the request about what a rewrite has left to be done; none when nothing is. -/
def requestRest? (who : Collaborators η) (cfg : RunConfig) (sample : QualitySample) (target : Target) (rewrite : RewriteOutcome) :
    RunAction η (Option RewriteRequest) := do
  let coverage := coverageOf sample target.file
  let remaining := remainingViolations target.file rewrite (findingsOf sample target) sample.toolchain cfg.profile
  if remaining.isEmpty ∧ !coverage.lt cfg.profile.coverageMin then
    return none
  else
    let request := requestFor cfg (← run) target.file rewrite remaining coverage
    change fun r => { r with requests := r.requests ++ [request] }
    act (who.showRequest request.text)
    return some request

/-- Rewrites a target and shows the request about the rest. -/
def rewriteAndRequest? (who : Collaborators η) (cfg : RunConfig) (sample : QualitySample) (target : Target) (standing : Option String)
    (plan : RewritePlan) : RunAction η (Option RewriteRequest) := do
  let file := target.file
  checkCanceled who.pause
  let rewrite ← act (who.rewriter ⟨cfg.projectRoot, file, standing.getD "", sample.toolchain, plan, findingsOf sample target⟩)
  if !rewrite.applied.isEmpty then
    act (Action.log .info "built-in rewrite applied" [("file", .str file), ("applied", .strings rewrite.applied)])
  requestRest? who cfg sample target rewrite

/-- What comes behind a request, up to the build check. -/
def answerRequest (who : Collaborators η) (cfg : RunConfig) (existed : Bool) : Option RewriteRequest → RunAction η Rewritten
  | none => verifyRewrite who false
  | some request =>
    match who.agent with
    | none => verifyRewrite who true
    | some agent => do
      match ← askAgent who cfg agent request existed with
      | some status => return .stopped status
      | none => verifyRewrite who false

/-- Puts an answer in its place, unless the user has canceled. -/
def placeAnswer (who : Collaborators η) (cfg : RunConfig) (request : RewriteRequest) (answer : AgentAnswer) : RunAction η Unit := do
  checkCanceled who.pause
  act (writeAnswer cfg request answer)

end Refactor

section Steps

variable {who : Collaborators η} {cfg : RunConfig} {sample : QualitySample} {target : Target} {standing : Option String}
  {plan : RewritePlan}

/-- What follows on a rewriting is the request about the rest, and what is done about that. -/
theorem completeRewrite_eq (existed : Bool) (rewrite : RewriteOutcome) : completeRewrite who cfg sample target existed rewrite =
    requestRest? who cfg sample target rewrite >>= answerRequest who cfg existed := by
  unfold completeRewrite requestRest?
  dsimp only
  split
  · rw [pure_bind]
    rfl
  · simp only [bind_assoc, pure_bind]
    rfl

/-- Rewriting up to the build check is rewriting up to the request, and what comes behind it. -/
theorem rewriteAndCheck_eq : rewriteAndCheck who cfg sample target standing plan =
    rewriteAndRequest? who cfg sample target standing plan >>= answerRequest who cfg standing.isSome := by
  unfold rewriteAndCheck rewriteAndRequest?
  simp only [bind_assoc, completeRewrite_eq]
  congr
  funext _
  congr
  funext rewrite
  split <;> simp only [bind_assoc]

/-- A request is about the target, and names the tests that go with it. -/
theorem Returns.rewriteAndRequest? : Returns (fun asked => ∀ request, asked = some request →
      request.file = target.file ∧ request.tests.path = RewriteRequest.testFileFor target.file)
    (Refactor.rewriteAndRequest? who cfg sample target standing plan) := by
  have hrest : ∀ rewrite, Returns (fun asked => ∀ request, asked = some request →
        request.file = target.file ∧ request.tests.path = RewriteRequest.testFileFor target.file)
      (requestRest? who cfg sample target rewrite) := by
    intro rewrite
    unfold requestRest?
    dsimp only
    split
    · exact pure fun request heq => by cases heq
    · refine last fun r => last fun _ => last fun _ => pure fun request heq => ?_
      rw [← Option.some.inj heq]
      exact ⟨file_requestFor _ _ _ _ _, tests_requestFor _ _ _ _ _⟩
  refine last fun _ => last fun rewrite => ?_
  split
  · exact last fun _ => hrest rewrite
  · exact hrest rewrite

/-- An agent that answers has its answer put in place and the build checked. -/
theorem rewriteAndCheck_of_answer {request : RewriteRequest} {answer : AgentAnswer} {agent : RewriteAgent η} {r₀ r : Run}
    {w₀ w₁ w : World η} (asked : rewriteAndRequest? who cfg sample target standing plan r₀ w₀ = ((.ok (some request), r), w₁))
    (hagent : who.agent = some agent) (answered : (agent request).run w₁ = (.ok answer, w)) :
    rewriteAndCheck who cfg sample target standing plan r₀ w₀ =
      goOn (placeAnswer who cfg request answer r w) fun _ => verifyRewrite who false := by
  rw [rewriteAndCheck_eq, bind_apply, asked, goOn_ok]
  unfold answerRequest
  dsimp only
  rw [hagent]
  unfold askAgent
  have hobserved : (Action.observe (agent request)).run w₁ = (.ok (.ok answer), w) := by
    show (Except.ok ((agent request).run w₁).1, ((agent request).run w₁).2) = _
    rw [answered]
  dsimp only
  rw [bind_assoc, bind_apply, act_apply hobserved, goOn_ok]
  unfold placeAnswer
  simp only [bind_assoc, pure_bind]
  rw [← bind_apply, bind_assoc]

end Steps

/-! ## The text at a path -/

/-- Whether the text at a path is a given one. -/
def TextAt (path : String) (text : Option String) (_ : Run) (w : World η) : Prop := w.disk.text? path = text

/-- Those who have a part in an iteration behind an answer leave the text at a path alone. -/
structure Collaborators.FinishesBeside (who : Collaborators η) (path : String) : Prop where
  verifyBuild : who.verifyBuild.SparesText path
  measureFile : ∀ file, (who.gauge.measureFile file).SparesText path
  pause : who.pause.SparesText path

namespace TextAt

variable {who : Collaborators η} {cfg : RunConfig} {path file : String} {text : Option String}

theorem act {α : Type} {a : Action η α} (h : a.SparesText path) : Maintains (TextAt path text) (RunAction.act a) :=
  Ensures.act fun _ w hw => (h w).trans hw

theorem change (f : Run → Run) : Maintains (TextAt path text) (RunAction.change f : RunAction η Unit) := Ensures.change fun _ _ hw => hw

theorem log (level : LogLevel) (message : String) (fields : List (String × Json)) :
    Maintains (TextAt path text) (RunAction.act (Action.log level message fields) : RunAction η Unit) :=
  act (Action.spares_log level message fields).text

/-- The look for a cancellation leaves the text alone. -/
theorem checkCanceled (h : who.FinishesBeside path) : Maintains (TextAt path text) (RunAction.checkCanceled who.pause) := by
  refine (act h.pause).bind fun _ => (act Action.spares_world.text).bind fun world => ?_
  split
  · exact .throw _
  · exact .pure _

/-- The check of the build leaves the text alone. -/
theorem verifyRewrite (h : who.FinishesBeside path) (awaiting : Bool) :
    Maintains (TextAt path text) (Refactor.verifyRewrite who awaiting) :=
  (checkCanceled h).bind fun _ => (act h.verifyBuild).bind fun _ => .pure _

/-- Putting a file back concerns the file and its backup. -/
theorem restore (hfile : Disk.key path ≠ Disk.key file) (hbackup : Disk.key path ≠ Disk.key (backupOf file)) (existed : Bool) :
    Maintains (TextAt path text) (RunAction.act (Refactor.restore file existed) : RunAction η Unit) := by
  refine act (Action.Spares.text ?_)
  unfold Refactor.restore
  split
  · exact Action.spares_rename hbackup hfile
  · exact Action.spares_remove hfile

/-- What is done about the outcome of a build leaves other texts alone than that of the target and its backup. -/
theorem concludeBuild (hfile : Disk.key path ≠ Disk.key (pathIn cfg file))
    (hbackup : Disk.key path ≠ Disk.key (backupOf (pathIn cfg file))) (existed awaiting : Bool) (build : BuildCheck) :
    Maintains (TextAt path text) (Refactor.concludeBuild cfg file existed awaiting build : RunAction η Attempted) := by
  unfold Refactor.concludeBuild
  dsimp only
  split
  · exact (act (Action.spares_remove hbackup).text).bind fun _ => .pure _
  · exact (restore hfile hbackup existed).bind fun _ => (log _ _ _).bind fun _ => (change _).bind fun _ => .pure _

/-- What comes behind an attempt writes nothing itself. -/
theorem concludeAttempt (h : who.FinishesBeside path) (attempted : Attempted) :
    Maintains (TextAt path text) (Refactor.concludeAttempt who cfg file attempted) := by
  match attempted with
  | .stopped _ => exact .pure _
  | .built true => exact (change _).bind fun _ => .pure _
  | .built false =>
    refine Maintains.bind ?_ fun _ => .pure _
    unfold concludeTarget
    refine (act (h.measureFile file)).bind fun sample => ?_
    split
    · refine Maintains.run.bind fun r => ?_
      dsimp only
      split
      · exact (change _).bind fun _ => Maintains.bind (act fun _ => rfl) fun _ => change _
      · exact .pure _
    · exact log _ _ _

end TextAt

/-! ## Placing an answer -/

/-- The text at the path of an answer's tests behind the placing of the answer, by how that ends. -/
def behindPlacing (answer : AgentAnswer) (before : Option String) : Except Failure Unit → Option String
  | .ok () => answer.testCode.or before
  | .error _ => before

section Placing

variable {who : Collaborators η} {cfg : RunConfig} {request : RewriteRequest} {before : Option String}

/-- The tests of an answer are written behind its source, so they are there when both could be written, and only then. -/
theorem text?_writeAnswer (hroot : Disk.key (pathIn cfg request.tests.path) ≠ "/")
    (hsource : Disk.key (pathIn cfg request.tests.path) ≠ Disk.key (pathIn cfg request.file)) (answer : AgentAnswer) (w : World η) :
    ((writeAnswer cfg request answer).run w).2.disk.text? (pathIn cfg request.tests.path) =
      behindPlacing answer (w.disk.text? (pathIn cfg request.tests.path)) ((writeAnswer cfg request answer).run w).1 := by
  have hwritten := Action.sparesText_writeText hsource answer.sourceCode w
  unfold writeAnswer
  rw [Action.run_bind]
  rcases hrun : (Action.writeText (pathIn cfg request.file) answer.sourceCode).run w with ⟨result, w₁⟩
  rw [hrun] at hwritten
  unfold behindPlacing
  cases result with
  | error failure => exact hwritten
  | ok =>
    cases htests : answer.testCode with
    | none => exact hwritten
    | some tests =>
      dsimp only
      rcases Action.run_writeText (pathIn cfg request.tests.path) tests w₁ with hrun | ⟨failure, hfails⟩
      · rw [hrun]
        dsimp only
        rw [Option.some_or, Disk.text?_eq_some_iff]
        exact Disk.at?_write_self hroot _ tests
      · rw [hfails]
        exact hwritten

/-- Behind the placing of an answer, the text at the path of its tests is told by how that ends. -/
theorem ensures_placeAnswer (h : who.FinishesBeside (pathIn cfg request.tests.path))
    (hroot : Disk.key (pathIn cfg request.tests.path) ≠ "/")
    (hsource : Disk.key (pathIn cfg request.tests.path) ≠ Disk.key (pathIn cfg request.file)) (answer : AgentAnswer) :
    Ensures (TextAt (pathIn cfg request.tests.path) before) (placeAnswer who cfg request answer) fun result =>
      TextAt (pathIn cfg request.tests.path) (behindPlacing answer before result) := by
  refine Ensures.bind (TextAt.checkCanceled h) (fun _ => Ensures.act fun r w hw => ?_) fun _ _ _ hw => hw
  obtain rfl : w.disk.text? (pathIn cfg request.tests.path) = before := hw
  exact text?_writeAnswer hroot hsource answer w

end Placing

/-! ## The rest of the iteration -/

section Rest

variable {who : Collaborators η} {cfg : RunConfig} {sample : QualitySample} {target : Target} {standing : Option String}
  {plan : RewritePlan} {r₀ r : Run} {w₀ w₁ w : World η}

/-- What rewriting up to the build check leaves at a path that is neither that of the file nor that of its backup is there at the end of
the iteration. -/
theorem text?_behind_check {path : String} (h : who.FinishesBeside path) (hfile : Disk.key path ≠ Disk.key (pathIn cfg target.file))
    (hbackup : Disk.key path ≠ Disk.key (backupOf (pathIn cfg target.file)))
    (backedUp : (backUp (pathIn cfg target.file) standing.isSome).run w₀ = (.ok (), w₁)) :
    (goOn (rewriteTarget who cfg sample target standing plan r₀ w₀) (concludeAttempt who cfg target.file)).2.disk.text? path =
      (rewriteAndCheck who cfg sample target standing plan r₀ w₁).2.disk.text? path := by
  rw [rewriteTarget_eq backedUp, attempt_eq]
  rcases rewriteAndCheck who cfg sample target standing plan r₀ w₁ with ⟨⟨result, r⟩, w⟩
  have hconclude : ∀ attempted, Maintains (TextAt path (w.disk.text? path)) (concludeAttempt who cfg target.file attempted) :=
    fun _ => TextAt.concludeAttempt h _
  have hfailed : ∀ failure, Maintains (TextAt path (w.disk.text? path)) ((do
      act (restore (pathIn cfg target.file) standing.isSome)
      throw failure) >>= concludeAttempt who cfg target.file) :=
    fun failure => ((TextAt.restore hfile hbackup _).bind fun _ => .throw failure).bind hconclude
  cases result with
  | error failure =>
    dsimp only
    rw [← bind_apply]
    exact (hfailed failure).holds r w rfl
  | ok rewritten =>
    cases rewritten with
    | stopped status => exact (hconclude (.stopped status)).holds r w rfl
    | checked awaiting build =>
      dsimp only
      rcases hbuilt : concludeBuild cfg target.file standing.isSome awaiting build r w with ⟨⟨built, r'⟩, w'⟩
      have htext : TextAt path (w.disk.text? path) r' w' :=
        (TextAt.concludeBuild hfile hbackup standing.isSome awaiting build).after rfl hbuilt
      cases built with
      | ok attempted => exact (hconclude attempted).holds r' w' htext
      | error failure =>
        dsimp only
        rw [← bind_apply]
        exact (hfailed failure).holds r' w' htext

/-- A failure on the way to the build check is what the iteration ends with. -/
theorem fails_behind_check {failure : Failure}
    (backedUp : (backUp (pathIn cfg target.file) standing.isSome).run w₀ = (.ok (), w₁))
    (checked : rewriteAndCheck who cfg sample target standing plan r₀ w₁ = ((.error failure, r), w)) :
    ∃ failure', (goOn (rewriteTarget who cfg sample target standing plan r₀ w₀) (concludeAttempt who cfg target.file)).1.1 =
      .error failure' := by
  rw [rewriteTarget_eq backedUp, attempt_eq, checked]
  dsimp only
  rw [bind_apply]
  rcases act (restore (pathIn cfg target.file) standing.isSome) r w with ⟨⟨result, r'⟩, w'⟩
  cases result with
  | error failure' => exact ⟨failure', rfl⟩
  | ok => exact ⟨failure, rfl⟩

end Rest

/-! ## Iterations with an answer -/

namespace Iteration

variable {it : Iteration η} {request : RewriteRequest} {answer : AgentAnswer} {r : Run} {w : World η}

/-- Whether the agent answers a request in an iteration, and the run and the world that the iteration goes on from with the answer. -/
inductive Answered (it : Iteration η) (request : RewriteRequest) (answer : AgentAnswer) (r : Run) (w : World η) : Prop where
  | intro {sample : QualitySample} {target : Target} {standing : Option String} {agent : RewriteAgent η} {r₀ : Run} {w₀ w₁ : World η}
      (turns : it.Turns sample target false r₀ w₀) (live : it.cfg.dryRun = false)
      (reads : (Action.readText? (pathIn it.cfg target.file)).run w₀ = (.ok standing, w₀))
      (asked : rewriteAndRequest? it.who it.cfg sample target standing (planFor it.cfg r₀ sample target standing) r₀
        ((backUp (pathIn it.cfg target.file) standing.isSome).run w₀).2 = ((.ok (some request), r), w₁))
      (asks : it.who.agent = some agent) (answers : (agent request).run w₁ = (.ok answer, w))

/-- Whether an answer is put in its place: the user has not canceled, and its files can be written. -/
def Places (it : Iteration η) (request : RewriteRequest) (answer : AgentAnswer) (r : Run) (w : World η) : Prop :=
  (placeAnswer it.who it.cfg request answer r w).1.1 = .ok ()

/-- An iteration goes on from an answer with its placing, and ends with what comes behind the build check. -/
theorem Answered.exists_ended (h : it.Answered request answer r w) : ∃ sample target standing plan r₀ w₀ w₁,
    request.file = target.file ∧ request.tests.path = RewriteRequest.testFileFor target.file ∧
    (backUp (pathIn it.cfg target.file) (Option.isSome standing)).run w₀ = (.ok (), w₁) ∧
    rewriteAndCheck it.who it.cfg sample target standing plan r₀ w₁ =
      goOn (placeAnswer it.who it.cfg request answer r w) (fun _ => verifyRewrite it.who false) ∧
    it.ended = goOn (rewriteTarget it.who it.cfg sample target standing plan r₀ w₀) (concludeAttempt it.who it.cfg target.file) := by
  obtain @⟨sample, target, standing, agent, r₀, w₀, w₁, turns, live, reads, asked, asks, answers⟩ := h
  obtain ⟨hfile, htests⟩ := Returns.rewriteAndRequest? _ _ (some request) (congrArg (·.1.1) asked) request rfl
  have hbackedUp := (backUp_run (Action.readText?_ok reads).1).1
  refine ⟨sample, target, standing, _, r₀, w₀, _, hfile, htests, Prod.ext hbackedUp rfl, rewriteAndCheck_of_answer asked asks answers, ?_⟩
  rw [turns.ended_other, processTarget_eq live reads, bind_apply]

/-- The text that an iteration leaves at the path of an answer's tests goes by how the placing of the answer has ended. -/
theorem Answered.text?_tests_ended {name : String} (h : it.Answered request answer r w) (named : Path.EndsIn request.file name)
    (isName : Path.IsName name) (beside : it.who.FinishesBeside (pathIn it.cfg request.tests.path)) :
    it.ended.2.disk.text? (pathIn it.cfg request.tests.path) =
      behindPlacing answer (w.disk.text? (pathIn it.cfg request.tests.path)) (placeAnswer it.who it.cfg request answer r w).1.1 := by
  obtain ⟨sample, target, standing, plan, r₀, w₀, w₁, hfile, htests, backedUp, hchecked, hended⟩ := h.exists_ended
  have hapart : Disk.key (pathIn it.cfg request.tests.path) ≠ Disk.key (pathIn it.cfg request.file) := by
    rw [htests, ← hfile]
    exact key_tests_ne_target it.cfg named isName
  have hroot : Disk.key (pathIn it.cfg request.tests.path) ≠ "/" := by
    rw [htests]
    exact key_tests_ne_root it.cfg target.file
  have hbackup : Disk.key (pathIn it.cfg request.tests.path) ≠ Disk.key (backupOf (pathIn it.cfg target.file)) := by
    rw [htests]
    exact (key_tests_ne_backup it.cfg target.file).symm
  have hplaced := (ensures_placeAnswer beside hroot hapart answer).holds r w rfl
  rcases hplacing : placeAnswer it.who it.cfg request answer r w with ⟨⟨placed, r₁⟩, w₂⟩
  rw [hplacing] at hchecked hplaced
  rw [hended, text?_behind_check beside (hfile ▸ hapart) hbackup backedUp, hchecked]
  cases placed with
  | error failure => exact hplaced
  | ok => exact (TextAt.verifyRewrite beside false).holds r₁ w₂ hplaced

/-- A broken build is found behind an answer that was put in its place. -/
theorem Answered.places_of_buildBroken (h : it.Answered request answer r w) (broken : it.EndsWith .buildBroken) :
    it.Places request answer r w := by
  obtain ⟨sample, target, standing, plan, r₀, w₀, w₁, -, -, backedUp, hchecked, hended⟩ := h.exists_ended
  unfold Places
  rcases hplacing : placeAnswer it.who it.cfg request answer r w with ⟨⟨placed, r₁⟩, w₂⟩
  cases placed with
  | ok => rfl
  | error failure =>
    rw [hplacing, goOn_error] at hchecked
    obtain ⟨failure', hfails⟩ := fails_behind_check backedUp hchecked
    unfold EndsWith at broken
    rw [hended, hfails] at broken
    cases broken

/-- The tests of an answer that was put in its place stand at the end of the iteration, however it ends, and nothing is changed at their
path without that. So where the iteration fails, the path holds what it held before exactly when the answer was not put in its place, or
brings no tests, or those that were there. Where the iteration ends with a broken build, it was. -/
theorem Answered.tests_asBefore_iff {name : String} (h : it.Answered request answer r w) (named : Path.EndsIn request.file name)
    (isName : Path.IsName name) (untouched : w.disk.text? (pathIn it.cfg request.tests.path) =
      it.world.disk.text? (pathIn it.cfg request.tests.path)) (beside : it.who.FinishesBeside (pathIn it.cfg request.tests.path)) :
    let text (w : World η) := w.disk.text? (pathIn it.cfg request.tests.path)
    (text it.ended.2 = text it.world ↔
      ¬it.Places request answer r w ∨ answer.testCode = none ∨ answer.testCode = text it.world) ∧
    (it.Places request answer r w → ∀ tests, answer.testCode = some tests → text it.ended.2 = some tests) ∧
    (it.EndsWith .buildBroken → it.Places request answer r w) := by
  intro text
  have hended : text it.ended.2 = behindPlacing answer (text it.world) (placeAnswer it.who it.cfg request answer r w).1.1 :=
    (h.text?_tests_ended named isName beside).trans (congrArg (behindPlacing answer · _) untouched)
  refine ⟨?_, fun hplaces tests htests => ?_, h.places_of_buildBroken⟩
  · rw [hended]
    unfold Places behindPlacing
    rcases (placeAnswer it.who it.cfg request answer r w).1.1 with failure | _
    · exact iff_of_true rfl (.inl nofun)
    · cases answer.testCode <;> simp
  · rw [hended, hplaces, behindPlacing, htests, Option.some_or]

end Iteration

namespace OneFinding

/-- The file in which the tests of the target stand. -/
def testsPath : String := "/p/tests/a_test.rs"

/-- A world in which the target has tests. -/
def tested : World Unit := { world with disk := [("/p/a.rs", .file "old"), (testsPath, .file "old tests")] }

/-- An iteration with an agent that gives an answer, and a build check that fails. -/
def answering (answer : AgentAnswer) : Iteration Unit := ⟨{ who with agent := some fun _ => pure answer }, config, begun, tested⟩

/-- The same where the user cancels once the new tests are written. -/
def interrupted (answer : AgentAnswer) : Iteration Unit :=
  { answering answer with
    who := { (answering answer).who with
      pause := Action.change fun w => { w with canceled := w.disk.text? testsPath ≠ some "old tests" } } }

/-- An answer that brings the tests that are there. -/
def sameTests : AgentAnswer := ⟨"newer", some "old tests"⟩

def withTests : AgentAnswer := ⟨"newer", some "new tests"⟩

/-- The run and the world in which the rewriting begins. -/
def asking : (Except Failure Bool × Run) × World Unit :=
  let surveyed := survey (answering sameTests).who config begun tested
  turnTo (answering sameTests).who config sample target surveyed.1.2 surveyed.2

/-- The run and the world in which the agent is asked. -/
def asked : (Except Failure (Option RewriteRequest) × Run) × World Unit :=
  rewriteAndRequest? (answering sameTests).who config sample target (some "old") (planFor config asking.1.2 sample target (some "old"))
    asking.1.2 ((backUp (pathIn config target.file) true).run asking.2).2

/-- The agent gives that answer, about the target, whose tests stand where the answer puts them. -/
theorem sameTests_answered : ∃ request, (answering sameTests).Answered request sameTests asked.1.2 asked.2 ∧
    request.file = target.file ∧ pathIn config request.tests.path = testsPath := by
  obtain ⟨request, hrequest⟩ : ∃ request, asked.1.1.toOption.join = some request := Option.isSome_iff_exists.mp (by decide +kernel)
  replace hrequest : asked = ((.ok (some request), asked.1.2), asked.2) :=
    @eq_of_toOption _ _ asked _ (Option.join_eq_some_iff.mp hrequest)
  have hturns : (answering sameTests).Turns sample target false asking.1.2 asking.2 :=
    .intro (@eq_of_toOption _ _ (survey (answering sameTests).who config begun tested) (.chosen sample target) (by decide +kernel))
      (@eq_of_toOption _ _ asking false (by decide +kernel))
  have hat : asking.2.disk.at? (pathIn config target.file) = some (.file "old") := by decide +kernel
  obtain ⟨hfile, htests⟩ := Returns.rewriteAndRequest? _ _ (some request) (congrArg (·.1.1) hrequest) request rfl
  refine ⟨request, .intro hturns rfl (Action.readText?_of_file hat) hrequest rfl rfl, hfile, ?_⟩
  rw [htests]
  decide +kernel

/-- An iteration that is found to end with a broken build does so. -/
theorem brokenBuild {it : Iteration Unit} (h : it.ended.1.1.toOption = some (some .buildBroken)) : it.EndsWith .buildBroken := by
  unfold Iteration.EndsWith
  rw [eq_of_toOption h]

end OneFinding

open OneFinding in
/-- Behind a broken build the tests are as before when the answer brings those that were there. -/
theorem repeatedTests_asBefore : (answering sameTests).EndsWith .buildBroken ∧
    (answering sameTests).ended.2.disk.text? testsPath = some "old tests" := by
  obtain ⟨request, hanswered, hfile, htests⟩ := sameTests_answered
  have hnamed : Path.EndsIn request.file "a.rs" := hfile ▸ ⟨by decide, .inl rfl⟩
  have hbeside : (answering sameTests).who.FinishesBeside testsPath := ⟨fun _ => rfl, fun _ _ => rfl, fun _ => rfl⟩
  have hspec := hanswered.tests_asBefore_iff hnamed ⟨by decide, by decide, by decide⟩
    (by
      show asked.2.disk.text? (pathIn config request.tests.path) = tested.disk.text? (pathIn config request.tests.path)
      rw [htests]
      decide +kernel)
    (by
      show (answering sameTests).who.FinishesBeside (pathIn config request.tests.path)
      rwa [htests])
  refine ⟨brokenBuild (by decide +kernel), ?_⟩
  have hsame : sameTests.testCode = tested.disk.text? (pathIn config request.tests.path) := by
    rw [htests]
    decide +kernel
  have hbefore := hspec.1.mpr (.inr (.inr hsame))
  change (answering sameTests).ended.2.disk.text? (pathIn config request.tests.path) =
    tested.disk.text? (pathIn config request.tests.path) at hbefore
  rw [htests] at hbefore
  rw [hbefore]
  decide +kernel

open OneFinding in
/-- The tests that an answer brings are kept when the build is broken, and when the user cancels before it is checked, while the file
itself is put back. -/
theorem failedIterations_keep_tests :
    (answering withTests).EndsWith .buildBroken ∧ ((interrupted withTests).ended.1.1 matches .error (.canceled _)) ∧
    ∀ it ∈ [answering withTests, interrupted withTests],
      it.world.disk.text? testsPath = some "old tests" ∧ it.ended.2.disk.text? testsPath = some "new tests" ∧
      it.ended.2.disk.text? (pathIn config target.file) = it.world.disk.text? (pathIn config target.file) := by
  have hbroken : (answering withTests).ended.1.1.toOption = some (some .buildBroken) ∧
      tested.disk.text? testsPath = some "old tests" ∧ (answering withTests).ended.2.disk.text? testsPath = some "new tests" ∧
      (answering withTests).ended.2.disk.text? (pathIn config target.file) = tested.disk.text? (pathIn config target.file) := by
    decide +kernel
  have hcanceled : ((interrupted withTests).ended.1.1 matches .error (.canceled _)) ∧
      tested.disk.text? testsPath = some "old tests" ∧ (interrupted withTests).ended.2.disk.text? testsPath = some "new tests" ∧
      (interrupted withTests).ended.2.disk.text? (pathIn config target.file) = tested.disk.text? (pathIn config target.file) := by
    decide +kernel
  exact ⟨brokenBuild hbroken.1, hcanceled.1,
    List.forall_mem_cons.mpr ⟨hbroken.2, List.forall_mem_cons.mpr ⟨hcanceled.2, List.forall_mem_nil _⟩⟩⟩

end QualityGate
