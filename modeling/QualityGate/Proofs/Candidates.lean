import Mathlib.Data.Finset.Card
import Mathlib.Data.Finset.Dedup
import QualityGate.Proofs.Selection
import QualityGate.Refactor.Loop

/-!
# Choosing until nothing is left

A tier calls for work on some paths (`SelectionInput.Calls`), and it admits those of them that are open to it
(`SelectionInput.mem_admitted_iff`). A choice is one of the admitted paths, and there is none exactly when no path is admitted, also
where coverage comes first. A path that is skipped is not admitted any more, however it is spelled, by any tier. So a series of
choices, each with the files of the earlier ones skipped, comes to an end, and it lists every admitted path exactly once
(`Refactor.Lists.covers`, `Refactor.Lists.distinct`).
-/

namespace QualityGate

namespace SelectionInput

variable {input : SelectionInput} {anyFile : Bool} {path : String} {more : List String}

/-- The paths that a tier calls for work on, and whether any file will do for the tier. -/
inductive Calls (input : SelectionInput) : Bool → String → Prop where
  | lint {v : Violation} (found : v ∈ input.violations) : Calls input true (normalizePath v.file)
  | build {e : CompilationError} (found : e ∈ input.compilationErrors) : Calls input true (normalizePath e.file)
  | coverage {f : SourceFile} (source : f ∈ input.sourceFiles)
      (short : (input.coverageByFile.numberOr (normalizePath f.path) 0).lt input.profile.coverageMin = true) :
      Calls input false (normalizePath f.path)
  | complexity {f : FileComplexity} {fn : FunctionInfo} (exceeded : input.profile.complexityMax.lt input.metrics.maxComplexity = true)
      (measured : f ∈ input.complexity) (has : fn ∈ f.functions)
      (complex : input.profile.complexityMax.lt (Number.ofNat fn.cyclomatic) = true) : Calls input false (normalizePath f.path)
  | satd {e : String × Number} (indebted : Number.lt 0 input.metrics.satdCount = true) (counted : e ∈ input.satdByFile)
      (some : Number.lt 0 e.2 = true) : Calls input false (normalizePath e.1)

/-- The paths that the tiers admit. -/
def admitted (input : SelectionInput) : List String :=
  (Select.lintCandidates input).map (·.file) ++ ((Select.buildCandidates input).map (·.1) ++
    ((Select.coverageCandidates input).map (·.path) ++
      ((if input.profile.complexityMax.lt input.metrics.maxComplexity then (Select.complexityCandidates input).map (·.1) else []) ++
        if Number.lt 0 input.metrics.satdCount then (Select.satdCandidates input).map (·.1) else [])))

/-- What is admitted is what some tier calls for work on, as far as it is open to that tier. -/
theorem mem_admitted_iff : path ∈ input.admitted ↔ ∃ anyFile, input.Calls anyFile path ∧ input.Open anyFile path := by
  unfold admitted
  simp only [List.mem_append, List.mem_map, Select.mem_lintCandidates, Select.mem_buildCandidates, Select.mem_coverageCandidates]
  constructor
  · rintro (⟨_, ⟨_, ⟨hopen, v, hv, rfl⟩, rfl⟩, rfl⟩ | ⟨_, ⟨_, ⟨hopen, e, he, rfl⟩, rfl⟩, rfl⟩ | ⟨_, ⟨f, ⟨hf, hopen⟩, hshort, rfl⟩, rfl⟩ |
      h | h)
    · exact ⟨true, .lint hv, hopen⟩
    · exact ⟨true, .build he, hopen⟩
    · exact ⟨false, .coverage hf hshort, hopen⟩
    · split at h
      · rename_i hmax
        obtain ⟨_, hc, rfl⟩ := List.mem_map.mp h
        obtain ⟨f, ⟨-, hf, hopen, fn, hfn, hover⟩, rfl⟩ := (Select.mem_complexityCandidates hmax).mp hc
        exact ⟨false, .complexity hmax hf hfn hover, hopen⟩
      · cases h
    · split at h
      · rename_i hdebt
        obtain ⟨_, hc, rfl⟩ := List.mem_map.mp h
        obtain ⟨e, ⟨-, he, hopen, hcount⟩, rfl⟩ := (Select.mem_satdCandidates hdebt).mp hc
        exact ⟨false, .satd hdebt he hcount, hopen⟩
      · cases h
  · rintro ⟨_, hcalls, hopen⟩
    cases hcalls with
    | lint hv => exact .inl ⟨_, ⟨_, ⟨hopen, _, hv, rfl⟩, rfl⟩, rfl⟩
    | build he => exact .inr (.inl ⟨_, ⟨_, ⟨hopen, _, he, rfl⟩, rfl⟩, rfl⟩)
    | coverage hf hshort => exact .inr (.inr (.inl ⟨_, ⟨_, ⟨hf, hopen⟩, hshort, rfl⟩, rfl⟩))
    | complexity hmax hf hfn hover =>
      refine .inr (.inr (.inr (.inl ?_)))
      rw [if_pos hmax]
      exact List.mem_map.mpr ⟨_, (Select.mem_complexityCandidates hmax).mpr ⟨_, ⟨hmax, hf, hopen, _, hfn, hover⟩, rfl⟩, rfl⟩
    | satd hdebt he hcount =>
      refine .inr (.inr (.inr (.inr ?_)))
      rw [if_pos hdebt]
      exact List.mem_map.mpr ⟨_, (Select.mem_satdCandidates hdebt).mpr ⟨_, ⟨hdebt, he, hopen, hcount⟩, rfl⟩, rfl⟩

/-! ## Skipping -/

/-- A path that was open is open as long as it is not skipped, however it is spelled. -/
theorem open_skipping_iff : ({ input with skipped := input.skipped ++ more } : SelectionInput).Open anyFile path ↔
    input.Open anyFile path ∧ normalizePath path ∉ more.map normalizePath := by
  have hfresh : normalizePath path ∉ (input.skipped ++ more).map normalizePath ↔
      normalizePath path ∉ input.skipped.map normalizePath ∧ normalizePath path ∉ more.map normalizePath := by
    rw [List.map_append, List.mem_append, not_or]
  constructor
  · rintro ⟨hundone, hskipped, htargeted, hfiltered, hrefactorable⟩
    exact ⟨⟨hundone, (hfresh.mp hskipped).1, htargeted, hfiltered, hrefactorable⟩, (hfresh.mp hskipped).2⟩
  · rintro ⟨⟨hundone, hskipped, htargeted, hfiltered, hrefactorable⟩, hmore⟩
    exact ⟨hundone, hfresh.mpr ⟨hskipped, hmore⟩, htargeted, hfiltered, hrefactorable⟩

/-- What the tiers call for does not depend on what is skipped. -/
theorem Calls.skipping (skipped : List String) (h : input.Calls anyFile path) :
    ({ input with skipped } : SelectionInput).Calls anyFile path := by
  cases h with
  | lint found => exact .lint found
  | build found => exact .build found
  | coverage source short => exact .coverage source short
  | complexity exceeded measured has complex => exact .complexity exceeded measured has complex
  | satd indebted counted some => exact .satd indebted counted some

/-- A path is still admitted unless one that is spelled like it is skipped. -/
theorem mem_admitted_skipping_iff : path ∈ ({ input with skipped := input.skipped ++ more } : SelectionInput).admitted ↔
    path ∈ input.admitted ∧ normalizePath path ∉ more.map normalizePath := by
  rw [mem_admitted_iff, mem_admitted_iff]
  constructor
  · rintro ⟨anyFile, hcalls, hopen⟩
    obtain ⟨hopen, hfresh⟩ := open_skipping_iff.mp hopen
    exact ⟨⟨anyFile, hcalls.skipping input.skipped, hopen⟩, hfresh⟩
  · rintro ⟨⟨anyFile, hcalls, hopen⟩, hfresh⟩
    exact ⟨anyFile, hcalls.skipping _, open_skipping_iff.mpr ⟨hopen, hfresh⟩⟩

/-! ## A choice -/

/-- Whether what is found comes from some paths, if anything is. -/
def ComesFrom (paths : List String) (found : Option Target) : Prop := ∀ t, found = some t → t.file ∈ paths

/-- What one of two tiers finds comes from the paths of either. -/
theorem ComesFrom.or {paths others : List String} {found other : Option Target} (h : ComesFrom paths found)
    (hother : ComesFrom others other) : ComesFrom (paths ++ others) (found <|> other) := by
  intro t ht
  cases found with
  | some t' => exact List.mem_append_left _ (h t ht)
  | none => exact List.mem_append_right _ (hother t ht)

/-- The best of some items is one of them. -/
theorem comesFrom_best {α : Type} {order : α → α → Ordering} {items : List α} {target : α → Target} :
    ComesFrom (items.map fun x => (target x).file) ((Select.best? order items).map target) := by
  intro t ht
  obtain ⟨x, hx, rfl⟩ := Option.map_eq_some_iff.mp ht
  exact List.mem_map.mpr ⟨x, Select.mem_of_best? hx, rfl⟩

/-- What the first tier finds is one of its candidates. -/
theorem comesFrom_lint : ComesFrom ((Select.lintCandidates input).map (·.file)) (Select.lint? input) := by
  intro t ht
  obtain ⟨c, hc, rfl⟩ := Option.map_eq_some_iff.mp ht
  exact List.mem_map.mpr ⟨c, (Ranking.rank_perm _ _ _).mem_iff.mp (List.mem_of_head? hc), rfl⟩

/-- What the third tier finds is one of its candidates. -/
theorem comesFrom_coverage : ComesFrom ((Select.coverageCandidates input).map (·.path)) (Select.coverage? input) := by
  intro t ht
  unfold Select.coverage? at ht
  dsimp only at ht
  split at ht
  · obtain ⟨c, hc, rfl⟩ := Option.map_eq_some_iff.mp ht
    exact List.mem_map.mpr ⟨c, (List.mem_filter.mp (Select.mem_of_best? hc)).1, rfl⟩
  · obtain ⟨c, hc, rfl⟩ := Option.map_eq_some_iff.mp ht
    exact List.mem_map.mpr ⟨c, Select.mem_of_best? hc, rfl⟩

/-- What the fourth tier finds is one of its candidates. -/
theorem comesFrom_complexity : ComesFrom (if input.profile.complexityMax.lt input.metrics.maxComplexity then
    (Select.complexityCandidates input).map (·.1) else []) (Select.complexity? input) := by
  unfold Select.complexity?
  split
  · exact comesFrom_best
  · exact nofun

/-- What the last tier finds is one of its candidates. -/
theorem comesFrom_satd : ComesFrom (if Number.lt 0 input.metrics.satdCount then (Select.satdCandidates input).map (·.1) else [])
    (Select.satd? input) := by
  unfold Select.satd?
  split
  · exact comesFrom_best
  · exact nofun

/-- What the tiers come up with. -/
def found? (input : SelectionInput) : Option Target :=
  Select.lint? input <|> Select.build? input <|> Select.coverage? input <|> Select.complexity? input <|> Select.satd? input

/-- A target that is selected is what the tiers come up with. -/
theorem found?_of_selected {t : Target} (h : selectTarget input = .selected t) : input.found? = some t := by
  rw [selectTarget_eq] at h
  change Contest.choice _ input.found? = _ at h
  cases hfound : input.found? with
  | none => rw [hfound] at h; cases h
  | some t' => rw [hfound] at h; exact congrArg some (Selection.selected.inj h)

/-- Where nothing is selected, the tiers come up with nothing. -/
theorem found?_of_exhausted {reason : String} (h : selectTarget input = .exhausted reason) :
    input.found? = none ∧ reason = "No eligible file remains in any tier" := by
  rw [selectTarget_eq] at h
  change Contest.choice _ input.found? = _ at h
  cases hfound : input.found? with
  | none => rw [hfound] at h; exact ⟨rfl, (Selection.exhausted.inj h).symm⟩
  | some t => rw [hfound] at h; cases h

/-- What is chosen is admitted. -/
theorem mem_admitted_of_selectTarget {t : Target} (h : selectTarget input = .selected t) : t.file ∈ input.admitted := by
  have hbuild : ComesFrom ((Select.buildCandidates input).map (·.1)) (Select.build? input) := comesFrom_best
  have hfound : ComesFrom input.admitted input.found? :=
    comesFrom_lint.or (hbuild.or (comesFrom_coverage.or (comesFrom_complexity.or comesFrom_satd)))
  exact hfound t (found?_of_selected h)

/-- Where none is the best, there are none. -/
theorem eq_nil_of_best {α : Type} {order : α → α → Ordering} {items : List α} {target : α → Target}
    (h : (Select.best? order items).map target = none) : items = [] := head?_sortBy_eq_none.mp (Option.map_eq_none_iff.mp h)

/-- Where coverage does not come first, nothing is admitted when there is no choice. -/
theorem admitted_of_exhausted {reason : String} (hdriven : input.coverageDriven = false)
    (h : selectTarget input = .exhausted reason) : input.admitted = [] := by
  have hnone := (found?_of_exhausted h).1
  unfold found? at hnone
  simp only [Option.orElse_eq_none] at hnone
  obtain ⟨hlint, hbuild, hcoverage, hcomplexity, hsatd⟩ := hnone
  have hranked : Select.rankedByLint input = [] := List.head?_eq_none_iff.mp (Option.map_eq_none_iff.mp hlint)
  have hlint : Select.lintCandidates input = [] := (hranked ▸ Ranking.rank_perm _ _ _ : [].Perm (Select.lintCandidates input)).symm.eq_nil
  have hcoverage : Select.coverageCandidates input = [] := by
    unfold Select.coverage? at hcoverage
    rw [hdriven] at hcoverage
    exact eq_nil_of_best hcoverage
  unfold Select.complexity? at hcomplexity
  unfold Select.satd? at hsatd
  unfold admitted
  rw [hlint, eq_nil_of_best hbuild, hcoverage]
  split at hcomplexity <;> split at hsatd
  · rw [if_pos ‹_›, if_pos ‹_›, eq_nil_of_best hcomplexity, eq_nil_of_best hsatd]
    rfl
  · rw [if_pos ‹_›, if_neg ‹_›, eq_nil_of_best hcomplexity]
    rfl
  · rw [if_neg ‹_›, if_pos ‹_›, eq_nil_of_best hsatd]
    rfl
  · rw [if_neg ‹_›, if_neg ‹_›]
    rfl

end SelectionInput

namespace Refactor

variable {cfg : RunConfig} {r r' : Run} {sample : QualitySample} {t : Target} {targets : List Target} {reason path : String}

/-! ## The choices of a run -/

/-- The paths that the tiers admit to a run by a measurement. -/
def candidates (cfg : RunConfig) (r : Run) (sample : QualitySample) : List String := (selectionInput cfg r sample false).admitted

/-- How many files the candidates are, spelling apart. -/
def distinctCount (paths : List String) : Nat := (paths.map normalizePath).toFinset.card

/-- The run that has looked at one more file. -/
def skip (r : Run) (file : String) : Run := { r with skipped := r.skipped ++ [file] }

/-- A choice depends on nothing of a run but its completed files and those that it has skipped. -/
theorem selectionInput_congr (hcompleted : r'.state.filesCompleted = r.state.filesCompleted) (hskipped : r'.skipped = r.skipped)
    (driven : Bool) : selectionInput cfg r' sample driven = selectionInput cfg r sample driven := by
  unfold selectionInput
  rw [hcompleted, hskipped]

/-- The choice depends on the completed and the skipped files of a run, and on nothing else in it. -/
theorem select_congr (hcompleted : r'.state.filesCompleted = r.state.filesCompleted) (hskipped : r'.skipped = r.skipped) :
    select cfg r' sample = select cfg r sample := by
  unfold select
  rw [selectionInput_congr hcompleted hskipped, selectionInput_congr hcompleted hskipped]

/-- Skipping a file takes its spellings from the candidates, and no others. -/
theorem mem_candidates_skip_iff {file : String} : path ∈ candidates cfg (skip r file) sample ↔
    path ∈ candidates cfg r sample ∧ normalizePath path ≠ normalizePath file := by
  have hskip : selectionInput cfg (skip r file) sample false =
      { selectionInput cfg r sample false with skipped := (selectionInput cfg r sample false).skipped ++ [file] } := rfl
  unfold candidates
  rw [hskip, SelectionInput.mem_admitted_skipping_iff, List.map_singleton, List.mem_singleton]

/-- Whether coverage comes first makes no difference to what is admitted. -/
theorem mem_candidates_iff (driven : Bool) : path ∈ (selectionInput cfg r sample driven).admitted ↔ path ∈ candidates cfg r sample :=
  Iff.rfl

/-- What is chosen is a candidate, also where coverage comes first. -/
theorem mem_candidates_of_select (h : select cfg r sample = .selected t) : t.file ∈ candidates cfg r sample := by
  unfold select at h
  split at h
  · rename_i t' hfirst
    obtain rfl := Selection.selected.inj h
    exact (mem_candidates_iff _).mp (SelectionInput.mem_admitted_of_selectTarget hfirst)
  · split at h
    · exact SelectionInput.mem_admitted_of_selectTarget h
    · cases h

/-- There is no choice only when there is no candidate: where coverage comes first, the other files have their turn too. -/
theorem candidates_of_exhausted (h : select cfg r sample = .exhausted reason) :
    candidates cfg r sample = [] ∧ reason = "No eligible file remains in any tier" := by
  unfold select at h
  split at h
  · cases h
  · rename_i other hfirst
    split at h
    · exact ⟨SelectionInput.admitted_of_exhausted rfl h, (SelectionInput.found?_of_exhausted h).2⟩
    · rename_i hdriven
      rw [Bool.eq_false_iff.mpr hdriven] at hfirst
      obtain rfl := Selection.exhausted.inj h
      exact ⟨SelectionInput.admitted_of_exhausted rfl hfirst, (SelectionInput.found?_of_exhausted hfirst).2⟩

/-- A series of choices, each with the files of the earlier ones skipped, until there is none. -/
inductive Lists (cfg : RunConfig) (sample : QualitySample) : Run → List Target → Prop where
  | exhausted {r : Run} {reason : String} (none : select cfg r sample = .exhausted reason) : Lists cfg sample r []
  | next {r : Run} {t : Target} {rest : List Target} (chosen : select cfg r sample = .selected t)
      (lists : Lists cfg sample (skip r t.file) rest) : Lists cfg sample r (t :: rest)

/-- With a chosen file skipped there are fewer candidates. -/
theorem distinctCount_skip_lt (h : select cfg r sample = .selected t) :
    distinctCount (candidates cfg (skip r t.file) sample) < distinctCount (candidates cfg r sample) := by
  refine Finset.card_lt_card ((Finset.ssubset_iff_of_subset fun name hname => ?_).mpr ⟨normalizePath t.file, ?_, fun hmem => ?_⟩)
  · obtain ⟨path, hpath, rfl⟩ := List.mem_map.mp (List.mem_toFinset.mp hname)
    exact List.mem_toFinset.mpr (List.mem_map_of_mem (mem_candidates_skip_iff.mp hpath).1)
  · exact List.mem_toFinset.mpr (List.mem_map_of_mem (mem_candidates_of_select h))
  · obtain ⟨path, hpath, heq⟩ := List.mem_map.mp (List.mem_toFinset.mp hmem)
    exact (mem_candidates_skip_iff.mp hpath).2 heq

/-- From every run a series of choices comes to an end, as each leaves fewer candidates. -/
theorem exists_lists (cfg : RunConfig) (r : Run) (sample : QualitySample) : ∃ targets, Lists cfg sample r targets := by
  induction hcount : distinctCount (candidates cfg r sample) using Nat.strong_induction_on generalizing r with
  | h count ih =>
    cases hchoice : select cfg r sample with
    | exhausted reason => exact ⟨[], .exhausted hchoice⟩
    | selected t =>
      obtain ⟨rest, hrest⟩ := ih _ (hcount ▸ distinctCount_skip_lt hchoice) (skip r t.file) rfl
      exact ⟨t :: rest, .next hchoice hrest⟩

/-- A series of choices depends on the completed and the skipped files of the run, and on nothing else in it. -/
theorem Lists.congr (h : Lists cfg sample r targets) (hcompleted : r'.state.filesCompleted = r.state.filesCompleted)
    (hskipped : r'.skipped = r.skipped) : Lists cfg sample r' targets := by
  induction h generalizing r' with
  | exhausted none => exact .exhausted ((select_congr hcompleted hskipped).trans none)
  | @next r t rest chosen lists ih =>
    refine .next ((select_congr hcompleted hskipped).trans chosen) (ih hcompleted ?_)
    show r'.skipped ++ [t.file] = r.skipped ++ [t.file]
    rw [hskipped]

/-- Nothing is listed but candidates. -/
theorem Lists.candidate (h : Lists cfg sample r targets) : ∀ t ∈ targets, t.file ∈ candidates cfg r sample := by
  induction h with
  | exhausted => exact nofun
  | next chosen _ ih =>
    intro t ht
    rcases List.mem_cons.mp ht with rfl | ht
    · exact mem_candidates_of_select chosen
    · exact (mem_candidates_skip_iff.mp (ih t ht)).1

/-- No file is listed twice, however it is spelled. -/
theorem Lists.distinct (h : Lists cfg sample r targets) : (targets.map fun t => normalizePath t.file).Nodup := by
  induction h with
  | exhausted => exact List.nodup_nil
  | next chosen lists ih =>
    refine List.nodup_cons.mpr ⟨fun hmem => ?_, ih⟩
    obtain ⟨t', ht', heq⟩ := List.mem_map.mp hmem
    exact (mem_candidates_skip_iff.mp (lists.candidate t' ht')).2 heq

/-- Every candidate is listed, in some spelling. -/
theorem Lists.covers (h : Lists cfg sample r targets) :
    ∀ path ∈ candidates cfg r sample, ∃ t ∈ targets, normalizePath t.file = normalizePath path := by
  induction h with
  | exhausted none =>
    rw [(candidates_of_exhausted none).1]
    exact nofun
  | @next r t rest chosen lists ih =>
    intro path hpath
    by_cases hsame : normalizePath t.file = normalizePath path
    · exact ⟨t, List.mem_cons_self, hsame⟩
    · obtain ⟨t', ht', heq⟩ := ih path (mem_candidates_skip_iff.mpr ⟨hpath, Ne.symm hsame⟩)
      exact ⟨t', List.mem_cons_of_mem t ht', heq⟩

/-- As many files are listed as there are candidates. -/
theorem Lists.length_eq (h : Lists cfg sample r targets) : targets.length = distinctCount (candidates cfg r sample) := by
  have hlisted : (targets.map fun t => normalizePath t.file).toFinset = ((candidates cfg r sample).map normalizePath).toFinset := by
    ext name
    simp only [List.mem_toFinset, List.mem_map]
    constructor
    · rintro ⟨t, ht, rfl⟩
      exact ⟨t.file, h.candidate t ht, rfl⟩
    · rintro ⟨path, hpath, rfl⟩
      exact h.covers path hpath
  unfold distinctCount
  rw [← hlisted, List.toFinset_card_of_nodup h.distinct, List.length_map]

end Refactor

end QualityGate
