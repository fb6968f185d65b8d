import QualityGate.Proofs.Actions
import QualityGate.Refactor.Rewriter

/-!
# What a rewrite tells of its file

The outcome of a rewrite tells the text of the file, whether that is another one than before, and what was done to it. The edits that
need no tool are written before the linter is called, and after a linter that succeeds the file is read again. After one that fails it
is not, so outcomes describe the files on disk exactly when a linter that fails leaves the file alone
(`outcomes_describe_iff_failures_leave`).
-/

namespace QualityGate

variable {η : Type}

namespace Rewrite

open QualityGate.Action

/-! ## The edits that need no tool -/

/-- Templates leave the content alone unless one of them is said to have been applied. -/
theorem applyTemplates_of_unused {path : String} {templates : List RewriteTemplate} {content : List Char} :
    (applyTemplates path templates content).2 = [] → (applyTemplates path templates content).1 = content := by
  refine List.foldlRecOn (motive := fun found : List Char × List RewriteTemplate => found.2 = [] → found.1 = content) templates _
    (fun _ => rfl) fun found hfound t _ => ?_
  dsimp only
  split
  · split
    · split
      · exact hfound
      · exact fun h => absurd h (by simp)
    · exact hfound
  · exact hfound

/-- Edits of which nothing is said were none. -/
theorem edit_of_unapplied {templates : List RewriteTemplate} {input : RewriteInput} (h : (edit templates input).2 = []) :
    (edit templates input).1 = input.content.toList := by
  have htemplates := @applyTemplates_of_unused input.file templates input.content.toList
  unfold edit at h ⊢
  rcases hused : applyTemplates input.file templates input.content.toList with ⟨content, used⟩
  rw [hused] at h htemplates
  dsimp only at h htemplates ⊢
  generalize (if input.plan.violations.any fun v => v.lintName = "satd_item" then removeSatd input.toolchain content else content) =
    cleaned at h ⊢
  generalize (if input.plan.violations.any fun v => v.fixStrategy = .addTest then appendTestStubs input.toolchain cleaned
    else (cleaned, [])) = stubbed at h ⊢
  split at h
  · rename_i hnone
    rw [if_pos hnone]
    dsimp only at h ⊢
    split at h
    · rename_i hcleaned
      rw [hcleaned]
      exact htemplates (List.map_eq_nil_iff.mp h)
    · exact absurd h (by simp)
  · exact absurd h (by simp)

/-! ## The text on disk -/

variable {path text : String} {w w' : World η}

/-- Behind the edits the text that they come to stands on disk, whether it had to be written or not. -/
theorem text?_of_written {content : String} (standing : w.disk.text? path = some text)
    (h : ((if content ≠ text then writeText path content else pure ()) : Action η Unit).run w = (.ok (), w')) :
    w'.disk.text? path = some content := by
  have hroot : Disk.key path ≠ "/" := fun hroot => by
    rw [Disk.text?_eq_some_iff] at standing
    unfold Disk.at? at standing
    rw [if_pos hroot] at standing
    cases standing
  split at h
  · exact Disk.text?_eq_some_iff.mpr (at?_writeText hroot h)
  · rename_i hsame
    rw [not_not] at hsame
    rw [← (Prod.mk.inj h).2, hsame]
    exact standing

variable {tools : Tools η} {input : RewriteInput}

/-- After the linter has succeeded the text is what is read of the file. -/
theorem text?_of_fixed {fixed : String} (h : (fixLints tools input).run w = (.ok (some fixed), w')) :
    w'.disk.text? input.path = some fixed := by
  unfold fixLints at h
  obtain ⟨root, v, -, h⟩ := run_bind_eq_ok.mp h
  obtain ⟨result, v', -, h⟩ := run_bind_eq_ok.mp h
  split at h
  · obtain ⟨found, v'', hread, h⟩ := run_bind_eq_ok.mp h
    obtain ⟨heq, rfl⟩ := Prod.mk.inj h
    rw [← Option.some.inj (Except.ok.inj heq)]
    exact text?_of_readText hread
  · obtain ⟨_, v'', -, h⟩ := run_bind_eq_ok.mp h
    cases Except.ok.inj (Prod.mk.inj h).1

/-! ## Outcomes -/

variable {templates : List RewriteTemplate} {outcome : RewriteOutcome}

/-- The text that the edits which need no tool come to. -/
def edited (templates : List RewriteTemplate) (input : RewriteInput) : String := String.ofList (edit templates input).1

/-- The outcome with a text behind what was done. -/
def told (input : RewriteInput) (text : String) (applied : List String) : RewriteOutcome := ⟨text, text ≠ input.content, applied⟩

/-- A rewrite writes its edits where they change the text, and then lets the linter fix what it can where that is called for. -/
theorem withTemplates_eq (tools : Tools η) (templates : List RewriteTemplate) (input : RewriteInput) :
    withTemplates tools templates input = ((if edited templates input ≠ input.content then
        writeText input.path (edited templates input) else pure ()) >>= fun _ =>
      if input.toolchain = .rust ∧ input.violations.any (·.machineApplicable) then fixLints tools input >>= fun result =>
        match result with
        | some fixed => pure (told input fixed ((edit templates input).2 ++ [lintFixes]))
        | none => pure (told input (edited templates input) (edit templates input).2)
      else pure (told input (edited templates input) (edit templates input).2)) := by
  by_cases hchanges : edited templates input ≠ input.content
  · rw [if_pos hchanges]
    exact if_pos hchanges
  · rw [if_neg hchanges]
    exact if_neg hchanges

/-- A rewrite that returns has written its edits, and then either the linter has succeeded and the outcome is of the text that is read
behind it, or the outcome is of the edits, with nothing behind them or a linter that failed. -/
theorem withTemplates_ok (h : (withTemplates tools templates input).run w = (.ok outcome, w')) :
    ∃ v, ((if edited templates input ≠ input.content then writeText input.path (edited templates input) else pure ()) :
          Action η Unit).run w = (.ok (), v) ∧
      ((∃ fixed, (fixLints tools input).run v = (.ok (some fixed), w') ∧
          outcome = told input fixed ((edit templates input).2 ++ [lintFixes])) ∨
        (outcome = told input (edited templates input) (edit templates input).2 ∧
          ((fixLints tools input).run v = (.ok none, w') ∨ w' = v))) := by
  rw [withTemplates_eq] at h
  obtain ⟨_, v, hwrite, h⟩ := run_bind_eq_ok.mp h
  refine ⟨v, hwrite, ?_⟩
  split at h
  · obtain ⟨result, v', hfix, h⟩ := run_bind_eq_ok.mp h
    cases result with
    | some fixed =>
      obtain ⟨heq, rfl⟩ := Prod.mk.inj h
      exact .inl ⟨fixed, hfix, (Except.ok.inj heq).symm⟩
    | none =>
      obtain ⟨heq, rfl⟩ := Prod.mk.inj h
      exact .inr ⟨(Except.ok.inj heq).symm, .inl hfix⟩
  · obtain ⟨heq, rfl⟩ := Prod.mk.inj h
    exact .inr ⟨(Except.ok.inj heq).symm, .inr rfl⟩

/-- Whether an outcome tells what stands on disk behind the rewrite of a file. -/
structure Describes (outcome : RewriteOutcome) (input : RewriteInput) (w : World η) : Prop where
  content : w.disk.text? input.path = some outcome.content
  changed : outcome.changed = true ↔ outcome.content ≠ input.content
  unchanged : outcome.applied = [] → w.disk.text? input.path = some input.content

/-- Whether a linter that fails leaves the text of the file that it was called for. -/
def FailuresLeave (tools : Tools η) : Prop :=
  ∀ (input : RewriteInput) (text : String) (w w' : World η), w.disk.text? input.path = some text →
    (fixLints tools input).run w = (.ok none, w') → w'.disk.text? input.path = some text

/-- An outcome that is told of a text describes it where that text stands on disk. -/
theorem describes_told {applied : List String} (stands : w.disk.text? input.path = some text)
    (unapplied : applied = [] → text = input.content) : Describes (told input text applied) input w where
  content := stands
  changed := decide_eq_true_iff
  unchanged hnone := by rw [stands, unapplied hnone]

/-- Rewrites tell the text of the file on disk, whether it has changed and whether anything was done, exactly when a linter that fails
leaves the file alone: the file is read again only after one that succeeds. -/
theorem outcomes_describe_iff_failures_leave (tools : Tools η) :
    (∀ (templates : List RewriteTemplate) (input : RewriteInput) (outcome : RewriteOutcome) (w w' : World η),
      w.disk.text? input.path = some input.content → (withTemplates tools templates input).run w = (.ok outcome, w') →
        Describes outcome input w') ↔ FailuresLeave tools := by
  constructor
  · intro describes input text w w' standing failed
    -- the same file with nothing to edit and something for the linter to fix
    let fixable : RewriteInput :=
      { input with content := text, toolchain := .rust, plan := { input.plan with violations := [] },
                   violations := [{ (default : Violation) with machineApplicable := true }] }
    have hedit : edit [] fixable = (text.toList, []) := by simp [edit, applyTemplates, fixable]
    have hedited : edited [] fixable = text := by rw [edited, hedit, String.ofList_toList]
    have hrun : (withTemplates tools [] fixable).run w = (.ok (told fixable text []), w') := by
      have hfix : (fixLints tools fixable).run w = (.ok none, w') := failed
      rw [withTemplates_eq, hedit, hedited, if_neg (not_not_intro rfl), if_pos ⟨rfl, rfl⟩]
      exact run_bind_eq_ok.mpr ⟨(), w, rfl, run_bind_eq_ok.mpr ⟨none, w', hfix, rfl⟩⟩
    exact (describes [] fixable _ w w' standing hrun).unchanged rfl
  · intro leave templates input outcome w w' standing h
    obtain ⟨v, hwrite, ⟨fixed, hfix, rfl⟩ | ⟨rfl, hrest⟩⟩ := withTemplates_ok h
    · exact describes_told (text?_of_fixed hfix) fun hnone => absurd hnone (by simp)
    · have hwritten := text?_of_written standing hwrite
      have hstands : w'.disk.text? input.path = some (edited templates input) := by
        rcases hrest with hfailed | rfl
        · exact leave input _ v w' hwritten hfailed
        · exact hwritten
      refine describes_told hstands fun hnone => ?_
      unfold edited
      rw [edit_of_unapplied hnone, String.ofList_toList]

namespace BrokenFix

/-- A file of which the linter says that it can fix it. -/
def file : RewriteInput where
  root := "/p"
  file := "src/lib.rs"
  content := "fn one() -> i32 { return 1; }"
  toolchain := .rust
  plan := ⟨"src/lib.rs", [], default, []⟩
  violations := [{ (default : Violation) with file := "src/lib.rs", lintName := "clippy::needless_return", machineApplicable := true }]

def world : World Unit := { disk := [("/p/src/lib.rs", .file file.content)], clock := 0, inner := () }

/-- A linter that fixes the file and then finds that the project does not compile. -/
def linter : Tools Unit := fun _ => do
  Action.writeText file.path "fn one() -> i32 { 1 }"
  return ⟨101, "", "error: could not compile", false⟩

end BrokenFix

open BrokenFix in
/-- A linter that writes a file and fails leaves an outcome of the text that was there before: it tells of no change and of nothing
done, where the file on disk has changed. -/
theorem brokenFix_not_described :
    let ended := (withTemplates linter [] file).run world
    world.disk.text? file.path = some file.content ∧ ended.1.toOption = some ⟨file.content, false, []⟩ ∧
      ended.2.disk.text? file.path = some "fn one() -> i32 { 1 }" ∧ ¬ Describes ⟨file.content, false, []⟩ file ended.2 := by
  have hstands : ((withTemplates linter [] file).run world).2.disk.text? file.path = some "fn one() -> i32 { 1 }" := by
    decide +kernel
  refine ⟨by decide +kernel, by decide +kernel, hstands, fun described => ?_⟩
  have hcontent := described.content
  rw [hstands] at hcontent
  exact absurd hcontent (by decide +kernel)

end Rewrite

end QualityGate
