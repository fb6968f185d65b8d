import QualityGate.Proofs.DebtEdits
import QualityGate.Proofs.Entries
import QualityGate.Proofs.Markers
import QualityGate.Proofs.PlanMarkers

/-!
# The removal that a plan previews

A plan finds the debt of a content again as violations, gives each its strategy and collects the edits one violation after the other;
the removal carries the edits out at once. Both come to the same text (`newContent_eq_removeSatd`): a violation of another lint
adds no edit, whatever its strategy is, a violation of debt adds the edit of its line, and each line with an edit has an item of debt
that tells of it.
-/

namespace QualityGate

/-- An edit that is set is the edit of its line, and the other lines keep theirs. -/
theorem LineEdits.get?_set (edits : LineEdits) (line : Int) (edit : LineEdit) (m : Int) :
    (edits.set line edit).get? m = if m = line then some edit else edits.get? m :=
  Entries.lookup_put edits line edit m

namespace Plan

/-! ## One violation after the other -/

section Edits

variable {t : Toolchain} {lines : List (List Char)} {satd : LineEdits}

/-- A violation of another lint than those that the plan's edits go by. -/
structure OfOtherLint (v : Violation) : Prop where
  noDebt : v.lintName ≠ "satd_item"
  noComplexity : v.lintName ≠ "high_complexity"

/-- A violation of another lint adds no edit, also where it is to be fixed in the same way as debt or complexity. -/
theorem addEdit_of_otherLint {v : Violation} (h : OfOtherLint v) (edits : LineEdits) :
    addEdit t lines satd edits (planned v) = edits := by
  have hdebt : (planned v).lintName ≠ "satd_item" := h.noDebt
  have hcomplexity : (planned v).lintName ≠ "high_complexity" := h.noComplexity
  simp [addEdit, hdebt, hcomplexity]

theorem foldl_addEdit_of_otherLint {violations : List Violation} (h : ∀ v ∈ violations, OfOtherLint v) (edits : LineEdits) :
    (violations.map planned).foldl (addEdit t lines satd) edits = edits := by
  induction violations with
  | nil => rfl
  | cons v violations ih =>
    rw [List.map_cons, List.foldl_cons, addEdit_of_otherLint (h v List.mem_cons_self)]
    exact ih fun w hw => h w (List.mem_cons_of_mem v hw)

/-- An item of debt adds the edit that the removal has for its line. -/
theorem get?_addEdit_debt (item : DebtItem) (edits : LineEdits) (m : Int) :
    (addEdit t lines satd edits (planned item.toViolation)).get? m =
      if m = item.line then (satd.get? m).or (edits.get? m) else edits.get? m := by
  have hstrategy : (planned item.toViolation).fixStrategy = .removeDeadCode := rfl
  have hlint : (planned item.toViolation).lintName = "satd_item" := rfl
  have hline : (planned item.toViolation).line = item.line := rfl
  rw [addEdit, if_pos ⟨hstrategy, hlint⟩, hline]
  cases hedit : satd.get? item.line with
  | none =>
    by_cases hm : m = item.line
    · rw [if_pos hm, hm, hedit, Option.none_or]
    · rw [if_neg hm]
  | some edit =>
    dsimp only
    rw [LineEdits.get?_set]
    by_cases hm : m = item.line
    · rw [if_pos hm, if_pos hm, hm, hedit, Option.some_or]
    · rw [if_neg hm, if_neg hm]

theorem get?_foldl_addEdit_debt (items : List DebtItem) (edits : LineEdits) (m : Int) :
    ((items.map (planned ∘ DebtItem.toViolation)).foldl (addEdit t lines satd) edits).get? m =
      if m ∈ items.map (fun item => (item.line : Int)) then (satd.get? m).or (edits.get? m) else edits.get? m := by
  induction items generalizing edits with
  | nil => simp
  | cons item items ih =>
    rw [List.map_cons, List.foldl_cons, ih, Function.comp_apply, get?_addEdit_debt]
    by_cases hhere : m = item.line
    · subst hhere
      cases satd.get? (item.line : Int) <;> simp
    · simp [hhere]

end Edits

/-! ## The debt of a content -/

/-- Each line that the removal edits has an item of debt. -/
theorem mem_detectSatd_of_satdEdits {t : Toolchain} {content : List Char} {m : Int} {edit : LineEdit} (file : String)
    (h : (satdEdits t content).get? m = some edit) : m ∈ (detectSatd t file content).map fun item => (item.line : Int) := by
  unfold satdEdits Satd.editsOf LineEdits.get? at h
  obtain ⟨before, after, hedits, -⟩ := List.lookup_eq_some_iff.mp h
  have hmem : (m, edit) ∈ before ++ (m, edit) :: after := List.mem_append_right before List.mem_cons_self
  rw [← hedits] at hmem
  obtain ⟨line, hline, hentry⟩ := List.mem_filterMap.mp hmem
  obtain ⟨edit', hedit, heq⟩ := Option.map_eq_some_iff.mp hentry
  obtain ⟨rfl, -⟩ := Prod.mk.inj heq
  have hmarked : line.comment.any Satd.isMarked = true := by
    by_contra hunmarked
    have hnone : Satd.editOf? line = none := Satd.editOf?_eq_none fun comment hcomment => by
      rw [hcomment] at hunmarked
      simpa using hunmarked
    rw [hnone] at hedit
    cases hedit
  rw [← Satd.isSome_itemOf? file] at hmarked
  obtain ⟨item, hitem⟩ := Option.isSome_iff_exists.mp hmarked
  have hnumber : item.line = line.number := by
    unfold Satd.itemOf? at hitem
    simp only [Option.bind_eq_bind, Option.bind_eq_some_iff] at hitem
    obtain ⟨comment, -, marker, -, kind, -, hitem⟩ := hitem
    rw [← Option.some.inj hitem]
  exact List.mem_map.mpr ⟨item, List.mem_filterMap.mpr ⟨line, hline, hitem⟩, by rw [hnumber]⟩

theorem highComplexity_eq_nil {p : Profile} {o : Outline} (h : ∀ f ∈ o.functions, exceeds p f = false) (file : String) :
    highComplexity file o p = [] := by
  have hnone : o.functions.filter (exceeds p) = [] := List.filter_eq_nil_iff.mpr fun f hf => by simp [h f hf]
  unfold highComplexity
  exact List.map_eq_nil_iff.mpr hnone

end Plan

open Plan

/-- Where no function is too complex and the given violations are of other lints than debt and complexity, the content that a plan
previews is the one that the removal of debt leaves. -/
theorem newContent_eq_removeSatd {input : PlanInput} {content : List Char} (hcontent : input.content = some content)
    (hfunctions : ∀ f ∈ input.outline.functions, exceeds input.profile f = false)
    (hgiven : ∀ v ∈ input.violations, OfOtherLint v) :
    (buildPlan input).newContent = removeSatd input.toolchain content := by
  have hfindings : findings input =
      input.violations ++ (detectSatd input.toolchain input.filePath content).map DebtItem.toViolation := by
    rw [findings, hcontent]
    dsimp only
    rw [highComplexity_eq_nil hfunctions, List.append_nil]
  have hplan : (buildPlan input).newContent = annotate input.toolchain ((findings input).map planned) content := by
    simp [buildPlan, hcontent]
  -- the two texts are the same lines with edits carried out, so it is enough to compare the edits line by line
  rw [hplan, hfindings, List.map_append, List.map_map, annotate, List.foldl_append, foldl_addEdit_of_otherLint hgiven]
  refine congrArg joinLines (Satd.applyFrom_congr _ fun m _ => ?_)
  rw [get?_foldl_addEdit_debt]
  have hempty : LineEdits.get? [] (m : Int) = none := rfl
  rw [hempty, Option.or_none]
  cases hedit : (satdEdits input.toolchain content).get? m with
  | none => rw [ite_self]
  | some edit => rw [if_pos (mem_detectSatd_of_satdEdits input.filePath hedit)]

namespace MixedLints

/-- Debt in a line of its own, behind code and in a block comment. -/
def content : List Char :=
  joinLines ["// TODO: split".toList, "fn a() \x7b\x7d // FIXME: name".toList, "/* HACK: odd".toList, "*/ fn b() \x7b\x7d".toList]

/-- Lints that call for the same strategies as debt and complexity, on lines with debt. -/
def given : List Violation :=
  [.atLines "src/a.rs" 1 1 "unused_variables" "unused" .warning "remove it",
   .atLines "src/a.rs" 2 2 "clippy::cognitive_complexity" "complex" .error "split it"]

def input : PlanInput :=
  { filePath := "src/a.rs", content := some content, toolchain := .rust, violations := given, outline := outline .rust content,
    profile := ⟨80, 20, 10, 0⟩ }

end MixedLints

open MixedLints in
/-- Lints of the same strategies, on the same lines, leave the preview as the removal has it. -/
theorem mixedLints_removed :
    (∀ f ∈ input.outline.functions, exceeds input.profile f = false) ∧ (∀ v ∈ input.violations, OfOtherLint v) ∧
      (given.map fun v => (planned v).fixStrategy) = [.removeDeadCode, .extractFunction] ∧
      (buildPlan input).newContent = removeSatd .rust content ∧
      removeSatd .rust content = joinLines ["fn a() \x7b\x7d".toList, "/*".toList, "*/ fn b() \x7b\x7d".toList] := by
  have hfunctions : ∀ f ∈ input.outline.functions, exceeds input.profile f = false := by decide +kernel
  have hgiven : ∀ v ∈ input.violations, OfOtherLint v := by
    intro v hv
    have hlints : ∀ v ∈ given, v.lintName ≠ "satd_item" ∧ v.lintName ≠ "high_complexity" := by decide
    exact ⟨(hlints v hv).1, (hlints v hv).2⟩
  exact ⟨hfunctions, hgiven, by decide, newContent_eq_removeSatd rfl hfunctions hgiven, by decide +kernel⟩

end QualityGate
