import QualityGate.Proofs.Iterations

/-!
# Runs that go on from what a store holds

A run goes on from the state that an earlier one has saved, and so it takes over what that one has chosen last (`Told`). Whether a run
ends without progress is decided by the choices alone: it makes no difference whether the iteration that chose a file before was a
rehearsal, was canceled, or has rewritten it (`noProgress_iff_choseLast`).
-/

namespace QualityGate

open Refactor RunAction

variable {η : Type}

/-- Metrics that are found the same are equal. -/
theorem Metrics.eq_of_same {a b : Metrics} (h : a.same b = true) : a = b := by
  have hnumber : ∀ {x y : Number}, x.same y = true → x = y := by
    intro x y hsame
    cases x <;> cases y <;> first | exact of_decide_eq_true hsame | cases hsame
  unfold same at h
  simp only [Bool.and_eq_true] at h
  obtain ⟨⟨⟨⟨⟨⟨⟨h₁, h₂⟩, h₃⟩, h₄⟩, h₅⟩, h₆⟩, h₇⟩, h₈⟩ := h
  cases a
  cases b
  simp only [MetricsOf.mk.injEq]
  exact ⟨hnumber h₁, hnumber h₂, hnumber h₃, hnumber h₄, hnumber h₅, hnumber h₆, hnumber h₇, hnumber h₈⟩

/-! ## What comes of a choice -/

namespace Iteration

/-- Whether an iteration that is no rehearsal carries the rewriting of a file that it has chosen to the build check. -/
inductive Checks (it : Iteration η) (sample : QualitySample) (target : Target) : Prop where
  | intro {standing : Option String} {awaiting : Bool} {build : BuildCheck} {r r' : Run} {w w₁ w₂ w₃ : World η}
      (turns : it.Turns sample target false r w) (live : it.cfg.dryRun = false)
      (reads : (Action.readText? (pathIn it.cfg target.file)).run w = (.ok standing, w₁))
      (backed : (backUp (pathIn it.cfg target.file) standing.isSome).run w₁ = (.ok (), w₂))
      (checked : rewriteAndCheck it.who it.cfg sample target standing (planFor it.cfg r sample target standing) r w₂ =
        ((.ok (.checked awaiting build), r'), w₃))

/-- Why an iteration has not carried a rewriting to the build check, although it has begun to work on its choice. -/
inductive FallsShort (it : Iteration η) : Prop where
  | rehearses (dry : it.cfg.dryRun = true)
  | awaits (ends : it.EndsWith .awaitingRewrite)
  | fails {failure : Failure} (fails : it.ended.1.1 = .error failure)

variable {it : Iteration η} {sample : QualitySample} {target : Target}

/-- An iteration that goes on to the work on a file carries its rewriting to the build check or falls short of that. -/
theorem Turns.checks_or_fallsShort {r : Run} {w : World η} (h : it.Turns sample target false r w) :
    it.Checks sample target ∨ it.FallsShort := by
  cases hdry : it.cfg.dryRun with
  | true => exact .inr (.rehearses hdry)
  | false =>
    have hended := h.ended_other
    rcases hread : (Action.readText? (pathIn it.cfg target.file)).run w with ⟨standing, w₁⟩
    cases standing with
    | error failure =>
      unfold processTarget at hended
      rw [bind_apply, act_apply hread, goOn_error] at hended
      exact .inr (.fails (congrArg (·.1.1) hended))
    | ok standing =>
      rw [processTarget_eq hdry hread, bind_apply] at hended
      rcases hbackUp : (backUp (pathIn it.cfg target.file) standing.isSome).run w₁ with ⟨backed, w₂⟩
      cases backed with
      | error failure =>
        unfold rewriteTarget at hended
        rw [bind_apply, act_apply hbackUp] at hended
        exact .inr (.fails (congrArg (·.1.1) hended))
      | ok =>
        have hstopped := @Returns.rewriteAndCheck η it.who it.cfg sample target standing (planFor it.cfg r sample target standing) r w₂
        rw [rewriteTarget_eq hbackUp, attempt_eq] at hended
        rcases hchecked : rewriteAndCheck it.who it.cfg sample target standing (planFor it.cfg r sample target standing) r w₂ with
          ⟨⟨rewritten, r'⟩, w₃⟩
        rw [hchecked] at hended hstopped
        cases rewritten with
        | error failure =>
          right
          dsimp only at hended
          rw [bind_apply] at hended
          rcases hrestore : (restore (pathIn it.cfg target.file) standing.isSome).run w₃ with ⟨restored, w₄⟩
          rw [act_apply hrestore] at hended
          cases restored <;> exact .fails (congrArg (·.1.1) hended)
        | ok rewritten =>
          cases rewritten with
          | checked awaiting build => exact .inl (.intro h hdry hread hbackUp hchecked)
          | stopped status =>
            obtain rfl := hstopped _ rfl status rfl
            refine .inr (.awaits ?_)
            unfold EndsWith
            rw [hended]
            rfl

/-- An iteration that chooses a file ends without progress, carries a rewriting to the build check, or falls short of that. -/
theorem Selects.cases (h : it.Selects sample target) : it.EndsWith .noProgress ∨ it.Checks sample target ∨ it.FallsShort := by
  rcases h.turns_or_fails with ⟨again, r, w, hturns⟩ | ⟨failure, hfails⟩
  · cases again with
    | true =>
      left
      unfold EndsWith
      rw [hturns.ended_again]
    | false => exact .inr hturns.checks_or_fallsShort
  · exact .inr (.inr (.fails hfails))

/-- Whether an iteration ends without a failure, or because the user has canceled. -/
def InOrder (it : Iteration η) : Prop := ∀ failure, it.ended.1.1 = .error failure → ∃ message, failure = .canceled message

end Iteration

/-! ## What is passed on -/

/-- Whether some iterations, the latest first, each begin with what the one before it has told, and tell of a last choice. -/
inductive Told : List (Iteration η) → Option String × Option Metrics → Prop where
  | nothing : Told [] (none, none)
  | next {its : List (Iteration η)} {it : Iteration η} (told : Told its it.run.state.last) (inOrder : it.InOrder) :
      Told (it :: its) it.ended.1.2.state.last

/-- Whether some iterations, the latest first, have last chosen a file by a measurement. -/
inductive ChoseLast (sample : QualitySample) (target : Target) : List (Iteration η) → Prop where
  | here {it : Iteration η} {its : List (Iteration η)} (selects : it.Selects sample target) : ChoseLast sample target (it :: its)
  | before {it : Iteration η} {its : List (Iteration η)} (nothing : ∀ sample' target', ¬it.Selects sample' target')
      (choseLast : ChoseLast sample target its) : ChoseLast sample target (it :: its)

/-- The last choice is one file, by one measurement. -/
theorem ChoseLast.unique {its : List (Iteration η)} {sample sample' : QualitySample} {target target' : Target}
    (h : ChoseLast sample target its) (h' : ChoseLast sample' target' its) : sample = sample' ∧ target = target' := by
  induction h with
  | here selects =>
    cases h' with
    | here selects' => exact selects.unique selects'
    | before nothing => exact absurd selects (nothing sample target)
  | before nothing choseLast ih =>
    cases h' with
    | here selects' => exact absurd selects' (nothing sample' target')
    | before _ choseLast' => exact ih choseLast'

/-- What iterations tell of is what they have last chosen. -/
theorem Told.choseLast_or_nothing {its : List (Iteration η)} {last : Option String × Option Metrics} (h : Told its last) :
    (∃ sample target, ChoseLast sample target its ∧ last = choiceOf sample target) ∨
      (∀ sample target, ¬ChoseLast sample target its) ∧ last = (none, none) := by
  induction h with
  | nothing =>
    refine .inr ⟨fun sample target hchose => ?_, rfl⟩
    cases hchose
  | @next its it told inOrder ih =>
    by_cases hselects : ∃ sample target, it.Selects sample target
    · obtain ⟨sample, target, hselects⟩ := hselects
      exact .inl ⟨sample, target, .here hselects, hselects.ended_last⟩
    · have hnothing : ∀ sample target, ¬it.Selects sample target := fun sample target h => hselects ⟨sample, target, h⟩
      rw [(Iteration.ended_of_not_selects hnothing).1]
      rcases ih with ⟨sample, target, hchose, hlast⟩ | ⟨hnone, hlast⟩
      · exact .inl ⟨sample, target, .before hnothing hchose, hlast⟩
      · refine .inr ⟨fun sample target hchose => ?_, hlast⟩
        cases hchose with
        | here selects => exact hnothing sample target selects
        | before _ choseLast => exact hnone sample target choseLast

/-- A choice repeats what iterations tell of when they have last chosen the same file under the same metrics. -/
theorem Told.repeats_iff {its : List (Iteration η)} {last : Option String × Option Metrics} (h : Told its last) {sample : QualitySample}
    {target : Target} : Repeats last sample target ↔ ∃ sample' target', ChoseLast sample' target' its ∧ target'.file = target.file ∧
      sample'.metrics.same sample.metrics = true := by
  rcases h.choseLast_or_nothing with ⟨sample₀, target₀, hchose, rfl⟩ | ⟨hnone, rfl⟩
  · rw [repeats_choiceOf]
    refine ⟨fun h => ⟨sample₀, target₀, hchose, h⟩, fun ⟨sample', target', hchose', h⟩ => ?_⟩
    obtain ⟨rfl, rfl⟩ := hchose.unique hchose'
    exact h
  · exact iff_of_false (fun ⟨_, heq, _⟩ => nomatch heq) fun ⟨sample', target', hchose, _⟩ => hnone sample' target' hchose

/-- What a repeated choice goes back to: an iteration that has chosen the same file under the same metrics and has not ended without
progress itself. -/
structure Origin (sample : QualitySample) (target : Target) (origin : Iteration η) (sample' : QualitySample) (target' : Target) :
    Prop where
  selects : origin.Selects sample' target'
  file : target'.file = target.file
  metrics : sample'.metrics.same sample.metrics = true
  inOrder : origin.InOrder
  first : ¬origin.EndsWith .noProgress
  outcome : origin.Checks sample' target' ∨ origin.FallsShort

/-- A choice that repeats what iterations tell of goes back to one of them, past all that have ended without progress. -/
theorem Told.exists_origin {its : List (Iteration η)} {last : Option String × Option Metrics} (h : Told its last)
    {sample : QualitySample} {target : Target} (repeats : Repeats last sample target) :
    ∃ origin ∈ its, ∃ sample' target', Origin sample target origin sample' target' := by
  induction h generalizing sample target with
  | nothing =>
    obtain ⟨_, heq, _⟩ := repeats
    cases heq
  | @next its it told inOrder ih =>
    by_cases hselects : ∃ sample target, it.Selects sample target
    · obtain ⟨sample₀, target₀, hselects⟩ := hselects
      rw [hselects.ended_last, repeats_choiceOf] at repeats
      obtain ⟨hfile, hsame⟩ := repeats
      by_cases hends : it.EndsWith .noProgress
      · obtain ⟨sample₁, target₁, r, w, hturns⟩ := hends.turns_again
        obtain ⟨rfl, rfl⟩ := hselects.unique hturns.selects
        obtain ⟨origin, hmem, sample', target', horigin⟩ := ih (hturns.endsWith_noProgress_iff.mp hends)
        refine ⟨origin, List.mem_cons_of_mem it hmem, sample', target', { horigin with file := horigin.file.trans hfile, metrics := ?_ }⟩
        rw [Metrics.eq_of_same horigin.metrics]
        exact hsame
      · refine ⟨it, List.mem_cons_self, sample₀, target₀, hselects, hfile, hsame, inOrder, hends, ?_⟩
        exact hselects.cases.resolve_left hends
    · have hnothing : ∀ sample target, ¬it.Selects sample target := fun sample target h => hselects ⟨sample, target, h⟩
      rw [(Iteration.ended_of_not_selects hnothing).1] at repeats
      obtain ⟨origin, hmem, hrest⟩ := ih repeats
      exact ⟨origin, List.mem_cons_of_mem it hmem, hrest⟩

/-! ## What a run saves -/

section Saving

variable (who : Collaborators η) (cfg : RunConfig)

/-- What a run saves, and the iterations that it has behind it then, the latest first: between two iterations, behind the last one, or as
complete. -/
inductive Saves (start : Run) (w₀ : World η) : List (Iteration η) → RefactorState → Prop where
  | between {past : List (Iteration η)} {r : Run} {w : World η} (course : Course who cfg start w₀ past r w) : Saves start w₀ past r.state
  | behind {past : List (Iteration η)} {it : Iteration η} (occurs : Occurs who cfg start w₀ past it) (inOrder : it.InOrder) :
      Saves start w₀ (it :: past) it.ended.1.2.state
  | completed {past : List (Iteration η)} {it : Iteration η} (occurs : Occurs who cfg start w₀ past it) (inOrder : it.InOrder) :
      Saves start w₀ (it :: past) (withProgress cfg it.ended.2.clock .complete it.ended.1.2.state)

end Saving

/-- What a store can hold that was empty once, and the iterations that have led there, the latest first: nothing, or what a run has saved
that went on from what the store held. -/
inductive Stored : List (Iteration η) → Option RefactorState → Prop where
  | empty : Stored [] none
  | saved {earlier its : List (Iteration η)} {loaded : Option RefactorState} {who : Collaborators η} {cfg : RunConfig} {now : Instant}
      {w : World η} {s : RefactorState} (stored : Stored earlier loaded) (saves : Saves who cfg (resume cfg loaded now) w its s) :
      Stored (its ++ earlier) (some s)

section Passing

variable {who : Collaborators η} {cfg : RunConfig} {start r : Run} {w₀ w : World η} {past earlier its : List (Iteration η)}
  {it : Iteration η} {s : RefactorState}

/-- Behind some iterations the state tells of the last choice. -/
theorem Course.told (h : Course who cfg start w₀ past r w) (told : Told earlier start.state.last) :
    Told (past ++ earlier) r.state.last := by
  induction h with
  | begin => exact told
  | @next past it r r₁ w w₁ w₂ course begins goesOn saved ih =>
    have hnext : Told (it :: past ++ earlier) it.ended.1.2.state.last := by
      refine .next ?_ fun failure hfails => ?_
      · rw [begins.state_eq]
        exact ih
      · rw [goesOn] at hfails
        cases hfails
    rwa [goesOn] at hnext

/-- An iteration begins with a state that tells of the last choice before it. -/
theorem Occurs.told (h : Occurs who cfg start w₀ past it) (told : Told earlier start.state.last) :
    Told (past ++ earlier) it.run.state.last := by
  obtain ⟨course, begins, -⟩ := h
  rw [begins.state_eq]
  exact course.told told

/-- What a run saves tells of the last choice. -/
theorem Saves.told (h : Saves who cfg start w₀ its s) (told : Told earlier start.state.last) : Told (its ++ earlier) s.last := by
  cases h with
  | between course => exact course.told told
  | behind occurs inOrder => exact .next (occurs.told told) inOrder
  | completed occurs inOrder =>
    rw [withProgress_last]
    exact .next (occurs.told told) inOrder

/-- What a run goes on from tells of the last choice of those before it. -/
theorem Stored.told {loaded : Option RefactorState} (h : Stored earlier loaded) (cfg : RunConfig) (now : Instant) :
    Told earlier (resume cfg loaded now).state.last := by
  induction h generalizing cfg now with
  | empty => exact .nothing
  | saved stored saves ih => exact saves.told (ih _ _)

/-- What a run saves that stops in order: its state as the last iteration leaves it, or as complete. -/
theorem Stop.saves {ended : (Except Failure RefactorStatus × Run) × World η} (h : Stop who cfg start w₀ its ended)
    (inOrder : ∀ failure, ended.1.1 = .error failure → ∃ message, failure = .canceled message) :
    Saves who cfg start w₀ its ended.1.2.state ∧
      (ended.1.1 = .ok .complete → Saves who cfg start w₀ its (withProgress cfg ended.2.clock .complete ended.1.2.state)) := by
  cases h with
  | @spent past r w course message =>
    refine ⟨?_, nofun⟩
    dsimp only
    exact .between course
  | @unbegun past r r₁ w w₁ failure course canceled =>
    have hsteady : Steady who fun r' (_ : World η) => r'.state = r.state := Steady.ofState fun s => s = r.state
    have hkept := hsteady.checkCanceled.holds r w rfl
    rw [canceled] at hkept
    refine ⟨?_, nofun⟩
    rw [hkept]
    exact .between course
  | @ended past it r₁ w₁ status occurs ends =>
    have horder : it.InOrder := fun failure hfails => by
      rw [ends] at hfails
      cases hfails
    have hcompleted := Saves.completed occurs horder
    rw [ends] at hcompleted
    have hstate : r₁.state = it.ended.1.2.state := by rw [ends]
    refine ⟨?_, fun _ => hcompleted⟩
    rw [hstate]
    exact .behind occurs horder
  | @failed past it r₁ w₁ failure occurs fails =>
    have horder : it.InOrder := fun other hfails => by
      rw [fails] at hfails
      exact inOrder other (congrArg Except.error (Except.error.inj hfails))
    have hstate : r₁.state = it.ended.1.2.state := by rw [fails]
    refine ⟨?_, nofun⟩
    rw [hstate]
    exact .behind occurs horder
  | @unsaved past it r₁ w₁ w₂ failure occurs goesOn unsaved =>
    have horder : it.InOrder := fun other hfails => by
      rw [goesOn] at hfails
      cases hfails
    have hstate : r₁.state = it.ended.1.2.state := by rw [goesOn]
    refine ⟨?_, nofun⟩
    rw [hstate]
    exact .behind occurs horder

/-- A run ends with its state as it is, or as complete, and tells how it has ended. -/
theorem ensures_finish (status : RefactorStatus) (s : RefactorState) (now : Instant) :
    Ensures (fun r (w : World η) => r.state = s ∧ w.clock = now) (finish who cfg status) fun result r _ =>
      (r.state = s ∨ status = .complete ∧ r.state = withProgress cfg now .complete s) ∧
        ∀ outcome, result = .ok outcome → outcome.status = status := by
  have hsaved : ∀ s', Ensures (fun r (_ : World η) => r.state = s') (do
      let r ← run
      act (who.save r.state)
      return ⟨status, r.iterations, r.state, r.phases, r.requests, r.message⟩ : RunAction η RefactorOutcome) fun result r _ =>
        r.state = s' ∧ ∀ outcome, result = .ok outcome → outcome.status = status := by
    refine fun s' => Ensures.run_bind fun seen => ?_
    refine (@Ensures.act η Unit (fun r _ => r.state = s' ∧ r = seen) (fun _ r _ => r.state = s') _ fun _ _ hr => hr.1).bind
      (fun _ => Ensures.pure fun _ _ hr => ⟨hr, fun outcome heq => ?_⟩) fun _ _ _ hr => ⟨hr, fun _ heq => nomatch heq⟩
    rw [← Except.ok.inj heq]
  unfold finish
  split
  · rename_i hcomplete
    refine ⟨fun r w hr => ?_⟩
    obtain ⟨rfl, rfl⟩ := hr
    obtain ⟨r', henter, hstate⟩ := @enter_apply η .complete { r with state := withProgress cfg w.clock .complete r.state } w
    rw [bind_apply, updateProgress_apply, goOn_ok, bind_apply, henter, goOn_ok]
    obtain ⟨hsame, hstatus⟩ := (hsaved _).holds r' w rfl
    exact ⟨.inr ⟨hcomplete, hsame.trans hstate⟩, hstatus⟩
  · exact (hsaved s).weaken (fun _ _ hr => hr.1) fun _ _ _ hr => ⟨.inl hr.1, hr.2⟩

/-- What a run has come to when it goes about to end: its state, or that as complete, and how it has stopped. -/
theorem stopped_of_finished {stopped : Except Failure RefactorStatus} {result : Except Failure RefactorOutcome} {r₀ r₁ : Run}
    {w₂ w₁ : World η} (h : goOn ((stopped, r₀), w₂) (finish who cfg) = ((result, r₁), w₁)) :
    (r₁.state = r₀.state ∨ stopped = .ok .complete ∧ r₁.state = withProgress cfg w₂.clock .complete r₀.state) ∧
      (∀ failure, stopped = .error failure → result = .error failure) ∧
      ∀ outcome, result = .ok outcome → stopped = .ok outcome.status := by
  cases stopped with
  | error failure =>
    cases h
    exact ⟨.inl rfl, fun _ heq => congrArg Except.error (Except.error.inj heq), fun _ heq => nomatch heq⟩
  | ok status =>
    have hfinish := (@ensures_finish η who cfg status r₀.state w₂.clock).holds r₀ w₂ ⟨rfl, rfl⟩
    rw [goOn_ok] at h
    rw [h] at hfinish
    obtain ⟨hstate, hstatus⟩ := hfinish
    refine ⟨hstate.imp_right fun hcomplete => ⟨by rw [hcomplete.1], hcomplete.2⟩, fun _ heq => (nomatch heq),
      fun outcome heq => ?_⟩
    rw [hstatus outcome heq]

/-- The state that a run ends with is one that it saves; and a run that ends without progress has an iteration that does. -/
theorem wholeRun_saves {outcome : RefactorOutcome} (h : wholeRun who cfg start w₀ = ((.ok outcome, r), w)) :
    ∃ its, Saves who cfg start w₀ its outcome.state ∧ (outcome.status = .noProgress →
      ∃ past it, its = it :: past ∧ Occurs who cfg start w₀ past it ∧ it.EndsWith .noProgress) := by
  obtain ⟨its, hstop⟩ := exists_stop who cfg start w₀
  obtain ⟨result, r₁, w₁, hobserved, hended⟩ := bind_eq_ok.mp h
  replace hobserved := observe_eq_ok.mp hobserved
  rw [bind_apply] at hobserved
  generalize iterations who cfg (budgetOf cfg.maxIterations) start w₀ = ended at hobserved hstop
  obtain ⟨⟨stopped, r₀⟩, w₂⟩ := ended
  obtain ⟨hstate, herror, hok⟩ := stopped_of_finished hobserved
  have hsaves : (∀ failure, stopped = .error failure → ∃ message, failure = .canceled message) →
      Saves who cfg start w₀ its r₁.state := by
    intro horder
    obtain ⟨hbehind, hcompleted⟩ := hstop.saves horder
    rcases hstate with hsame | ⟨hcomplete, hsame⟩
    · rw [hsame]
      exact hbehind
    · rw [hsame]
      exact hcompleted hcomplete
  -- a run that fails is given up, except for a cancellation, behind which it saves and ends once more
  cases result with
  | ok ended =>
    cases hended
    obtain rfl := hok outcome rfl
    rw [goOn_ok] at hobserved
    rw [(finish_eq_ok hobserved).1]
    exact ⟨its, hsaves fun _ heq => (nomatch heq), fun hstatus => hstop.exists_noProgress (congrArg Except.ok hstatus)⟩
  | error failure =>
    cases failure with
    | canceled message =>
      obtain ⟨_, r₂, w₃, hlogged, hended⟩ := bind_eq_ok.mp hended
      cases hlogged
      obtain ⟨_, r₃, w₄, hlogged, hended⟩ := bind_eq_ok.mp hended
      obtain ⟨-, rfl⟩ := act_eq_ok.mp hlogged
      obtain ⟨_, r₄, w₅, htold, hfinish⟩ := bind_eq_ok.mp hended
      cases htold
      obtain ⟨hlast, hstatus⟩ := (@ensures_finish η who cfg .canceled r₁.state _).holds { r₁ with message } w₄ ⟨rfl, rfl⟩
      rw [hfinish] at hlast hstatus
      have hfinal : outcome.state = r₁.state :=
        (finish_eq_ok hfinish).1.trans (hlast.resolve_right fun hcomplete => nomatch hcomplete.1)
      rw [hfinal, hstatus outcome rfl]
      refine ⟨its, hsaves fun failure heq => ?_, nofun⟩
      exact ⟨message, (Except.error.inj (herror failure heq)).symm⟩
    | _ => cases hended

/-- A run that does not end as complete saves its state as it is and tells how it has ended. -/
theorem finish_of_ne_complete {status : RefactorStatus} (h : status ≠ .complete) (r : Run) (w : World η) :
    finish who cfg status r w =
      goOn (act (who.save r.state) r w) fun _ => pure ⟨status, r.iterations, r.state, r.phases, r.requests, r.message⟩ := by
  unfold finish
  rw [if_neg h]
  show (act (who.save r.state) >>= _ : RunAction η RefactorOutcome) r w = _
  rw [bind_apply]

/-- Whether saving is never taken for a cancellation. -/
def Collaborators.SavesUncanceled (who : Collaborators η) : Prop :=
  ∀ s w message w', (who.save s).run w ≠ (.error (.canceled message), w')

/-- A run with an iteration that ends without progress ends so itself and tells what the iteration has told, unless its state cannot be
saved. -/
theorem wholeRun_noProgress {outcome : RefactorOutcome} (saves : who.SavesUncanceled) (occurs : Occurs who cfg start w₀ past it)
    (ends : it.EndsWith .noProgress) (h : wholeRun who cfg start w₀ = ((.ok outcome, r), w)) :
    outcome.status = .noProgress ∧ outcome.message = it.ended.1.2.message := by
  obtain ⟨result, r₁, w₁, hobserved, hended⟩ := bind_eq_ok.mp h
  replace hobserved := observe_eq_ok.mp hobserved
  rw [bind_apply, occurs.iterations_eq ends, goOn_ok, finish_of_ne_complete (by decide)] at hobserved
  rcases hsave : (who.save it.ended.1.2.state).run it.ended.2 with ⟨saved, w₂⟩
  rw [act_apply hsave] at hobserved
  cases saved with
  | ok =>
    cases hobserved
    cases hended
    exact ⟨rfl, rfl⟩
  | error failure =>
    cases hobserved
    cases failure with
    | canceled message => exact absurd hsave (saves _ _ _ _)
    | _ => cases hended

/-- The last of the iterations of a run, when it has turned to a file that the choice before it was of too, under the same metrics: in
this run, or in those that have led to what it has gone on from. -/
inductive TurnsAgain (who : Collaborators η) (cfg : RunConfig) (start : Run) (w₀ : World η) (earlier : List (Iteration η))
    (target : Target) : List (Iteration η) → Prop where
  | intro {past : List (Iteration η)} {it : Iteration η} {sample sample' : QualitySample} {target' : Target} {again : Bool} {r : Run}
      {w : World η} (occurs : Occurs who cfg start w₀ past it) (turns : it.Turns sample target again r w)
      (choseLast : ChoseLast sample' target' (past ++ earlier)) (file : target'.file = target.file)
      (metrics : sample'.metrics.same sample.metrics = true) : TurnsAgain who cfg start w₀ earlier target (it :: past)

/-- An iteration that repeats the choice before it ends without progress and names its file. -/
theorem TurnsAgain.ended {target : Target} (h : TurnsAgain who cfg start w₀ earlier target its) (told : Told earlier start.state.last) :
    ∃ past it, its = it :: past ∧ Occurs who cfg start w₀ past it ∧ it.EndsWith .noProgress ∧
      it.ended.1.2.message = s!"No progress: {target.file} was selected again with unchanged metrics" := by
  obtain ⟨occurs, turns, choseLast, file, metrics⟩ := h
  have hrepeats := (occurs.told told).repeats_iff.mpr ⟨_, _, choseLast, file, metrics⟩
  obtain rfl := turns.again_iff.mpr hrepeats
  exact ⟨_, _, rfl, occurs, turns.endsWith_noProgress_iff.mpr hrepeats, by rw [turns.ended_again]⟩

/-- An iteration that ends without progress repeats the choice before it. -/
theorem Occurs.turnsAgain (h : Occurs who cfg start w₀ past it) (told : Told earlier start.state.last) (ends : it.EndsWith .noProgress) :
    ∃ target, TurnsAgain who cfg start w₀ earlier target (it :: past) := by
  obtain ⟨sample, target, r, w, hturns⟩ := ends.turns_again
  have hrepeats := hturns.endsWith_noProgress_iff.mp ends
  obtain ⟨sample', target', hchose, hfile, hmetrics⟩ := (h.told told).repeats_iff.mp hrepeats
  exact ⟨target, .intro h hturns hchose hfile hmetrics⟩

end Passing

/-- A run that goes on from what a store holds: an iteration that turns to a file ends without progress exactly when the last choice before
it, in this run or in those that have led to what the store holds, was of the same file under the same metrics. That goes back to an
iteration that has not ended without progress itself: it has carried its rewriting to the build check, or it has fallen short of that, as
a rehearsal, for want of an answer, or because the user has canceled. So a run that comes to an end does so without progress, for a file,
exactly when its last iteration has turned to that file again. What the run ends with is in the store for the next one. -/
theorem noProgress_iff_choseLast {who : Collaborators η} {cfg : RunConfig} {earlier : List (Iteration η)} {loaded : Option RefactorState}
    {w₀ w : World η} (stored : Stored earlier loaded) (load : who.load.run w₀ = (.ok loaded, w)) :
    let start := resume cfg loaded w.clock
    (∀ past it, Occurs who cfg start w past it → ∀ sample target again r w', it.Turns sample target again r w' →
      (it.EndsWith .noProgress ↔ ∃ sample' target', ChoseLast sample' target' (past ++ earlier) ∧ target'.file = target.file ∧
        sample'.metrics.same sample.metrics = true) ∧
      (it.EndsWith .noProgress → ∃ origin ∈ past ++ earlier, ∃ sample' target', Origin sample target origin sample' target')) ∧
    ∀ outcome after, (refactor who cfg).run w₀ = (.ok outcome, after) →
      (∃ its, Stored (its ++ earlier) (some outcome.state) ∧
        (outcome.status = .noProgress → ∃ target, TurnsAgain who cfg start w earlier target its)) ∧
      (who.SavesUncanceled → ∀ its target, TurnsAgain who cfg start w earlier target its → outcome.status = .noProgress ∧
        outcome.message = s!"No progress: {target.file} was selected again with unchanged metrics") := by
  intro start
  have htold : Told earlier start.state.last := stored.told cfg w.clock
  refine ⟨fun past it hoccurs sample target again r w' hturns => ?_, fun outcome after hended => ?_⟩
  · have hends := hturns.endsWith_noProgress_iff
    exact ⟨hends.trans (hoccurs.told htold).repeats_iff, fun hnone => (hoccurs.told htold).exists_origin (hends.mp hnone)⟩
  · rw [refactor_run load] at hended
    rcases hrun : wholeRun who cfg start w with ⟨⟨result, r⟩, w'⟩
    change ((wholeRun who cfg start w).1.1, (wholeRun who cfg start w).2) = _ at hended
    rw [hrun] at hended
    obtain rfl : result = .ok outcome := (Prod.mk.inj hended).1
    refine ⟨?_, fun huncanceled its target hagain => ?_⟩
    · obtain ⟨its, hsaves, hnone⟩ := wholeRun_saves hrun
      refine ⟨its, .saved stored hsaves, fun hstatus => ?_⟩
      obtain ⟨past, it, rfl, hoccurs, hends⟩ := hnone hstatus
      exact hoccurs.turnsAgain htold hends
    · obtain ⟨past, it, -, hoccurs, hends, hmessage⟩ := hagain.ended htold
      obtain ⟨hstatus, htells⟩ := wholeRun_noProgress huncanceled hoccurs hends hrun
      exact ⟨hstatus, htells.trans hmessage⟩

namespace OneFinding

def rehearsing : RunConfig := { twice with dryRun := true, maxIterations := 1 }

/-- The only iteration of a rehearsal that begins afresh. -/
def rehearsed : Iteration Unit :=
  ⟨persisting, rehearsing, { resume rehearsing none 0 with iterations := (resume rehearsing none 0).iterations + 1 }, world⟩

/-- What the rehearsal saves. -/
def noted : RefactorState := rehearsed.ended.1.2.state

/-- The same collaborators, going on from what the rehearsal has saved. -/
def resuming : Collaborators Unit := { persisting with load := pure (some noted) }

/-- The first iteration of a run that is no rehearsal and goes on from there. -/
def resumed : Iteration Unit :=
  ⟨resuming, twice, { resume twice (some noted) world.clock with iterations := (resume twice (some noted) world.clock).iterations + 1 },
    world⟩

/-- The store holds what the rehearsal has saved. -/
theorem noted_stored : Stored [rehearsed] (some noted) := by
  have hbegins : Begins persisting rehearsing (resume rehearsing none 0) world rehearsed := begins_of_uncanceled rfl rfl
  have hended := @eq_of_toOption _ _ rehearsed.ended none (by decide +kernel)
  have hoccurs : Occurs persisting rehearsing (resume rehearsing none 0) world [] rehearsed := .intro .begin hbegins (by decide +kernel)
  refine @Stored.saved _ [] [rehearsed] _ _ _ _ _ _ .empty (.behind hoccurs fun failure hfails => ?_)
  rw [hended] at hfails
  cases hfails

theorem resumed_occurs : Occurs resuming twice (resume twice (some noted) world.clock) world [] resumed :=
  .intro .begin (begins_of_uncanceled rfl rfl) (by decide +kernel)

/-- It ends for want of progress. -/
theorem resumed_ends : resumed.EndsWith .noProgress := by
  have hended := @eq_of_toOption _ _ resumed.ended (some .noProgress) (by decide +kernel)
  unfold Iteration.EndsWith
  rw [hended]

end OneFinding

open OneFinding in
/-- Where a run ends without progress behind a rehearsal, its choice repeats that of the rehearsal, and goes back to it. -/
theorem resumedRun_choseLast : ∃ sample target sample' target', ChoseLast sample' target' [rehearsed] ∧ target'.file = target.file ∧
    Origin sample target rehearsed sample' target' ∧
    ∀ outcome after, (refactor resuming twice).run world = (.ok outcome, after) → outcome.status = .noProgress ∧
      outcome.message = s!"No progress: {target.file} was selected again with unchanged metrics" := by
  have hload : resuming.load.run world = (.ok (some noted), world) := rfl
  obtain ⟨hiterations, hruns⟩ := @noProgress_iff_choseLast Unit resuming twice [rehearsed] (some noted) world world noted_stored hload
  obtain ⟨sample, target, r, w, hturns⟩ := resumed_ends.turns_again
  obtain ⟨hends, hgoesBack⟩ := hiterations [] resumed resumed_occurs sample target true r w hturns
  obtain ⟨sample', target', hchose, hfile, hmetrics⟩ := hends.mp resumed_ends
  obtain ⟨origin, hmem, sample'', target'', horigin⟩ := hgoesBack resumed_ends
  obtain rfl : origin = rehearsed := List.mem_singleton.mp hmem
  obtain ⟨rfl, rfl⟩ := hchose.unique (.here horigin.selects)
  refine ⟨sample, target, sample', target', hchose, hfile, horigin, fun outcome after hended => ?_⟩
  have huncanceled : resuming.SavesUncanceled := fun _ _ _ _ heq => nomatch (Prod.mk.inj heq).1
  have hagain : TurnsAgain resuming twice (resume twice (some noted) world.clock) world [rehearsed] target [resumed] :=
    .intro resumed_occurs hturns hchose hfile hmetrics
  exact (hruns outcome after hended).2 huncanceled _ target hagain

open OneFinding in
/-- A rehearsal makes the next run end without progress in its first iteration, before anything was requested or rewritten. -/
theorem rehearsal_stops_next :
    let first := (refactor persisting rehearsing).run world
    let second := (refactor { persisting with load := pure (first.1.toOption.map (·.state)) } twice).run first.2
    first.1.toOption.map (fun o => (o.status, o.iterations)) = some (.budgetExhausted, 1) ∧
      second.1.toOption.map (fun o => (o.status, o.iterations, o.requests.length)) = some (.noProgress, 1, 0) := by
  decide +kernel

end QualityGate
