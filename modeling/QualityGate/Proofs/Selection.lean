import QualityGate.Proofs.Groups
import QualityGate.Proofs.Orders
import QualityGate.Selection

/-!
# The choice as a contest

What a tier chooses from is a contest: the candidates that stand, the order they are ranked by, and their paths. The choice is right
when it is the first in the first contest that anyone stands in. It is right for every input whose coverage record answers for the
paths it is asked about; a record answers for every path but those that it does not have and inherits.
-/

namespace QualityGate

open Std (TransCmp OrientedCmp ReflCmp)

/-- The candidates of a tier, how they are ranked, and their paths. -/
structure Contest where
  tier : Tier
  Candidate : Type
  Stands : Candidate → Prop
  order : Candidate → Candidate → Ordering
  path : Candidate → String

namespace Contest

/-- Whether a candidate is the first of those that stand, and no other path is ranked with its own. -/
structure Wins (c : Contest) (x : c.Candidate) : Prop where
  stands : c.Stands x
  first : ∀ y, c.Stands y → c.order x y ≠ .gt
  only : ∀ y, c.Stands y → c.order x y = .eq → c.path y = c.path x

/-- Whether the paths of those who stand have different places in reading order. -/
def Named (c : Contest) : Prop :=
  ∀ x y, c.Stands x → c.Stands y → Collation.order (c.path x) (c.path y) = .eq → c.path y = c.path x

/-- Whether a choice is the winner of the first of some contests that anyone stands in, or there is none to choose. -/
inductive Decides : List Contest → Selection → Prop where
  | wins {c : Contest} {rest : List Contest} {x : c.Candidate} {reason : String} (h : c.Wins x) :
      Decides (c :: rest) (.selected ⟨c.path x, c.tier, reason⟩)
  | passes {c : Contest} {rest : List Contest} {s : Selection} (none : ∀ x, ¬c.Stands x) (h : Decides rest s) :
      Decides (c :: rest) s
  | exhausted {reason : String} : Decides [] (.exhausted reason)

/-- Nobody stands in any contest when the choice is that there is nothing left. -/
theorem Decides.nobody_of_exhausted {cs : List Contest} {reason : String} (h : Decides cs (.exhausted reason)) (c : Contest)
    (hc : c ∈ cs) (x : c.Candidate) : ¬c.Stands x := by
  induction cs with
  | nil => cases hc
  | cons first rest ih =>
    cases h with
    | passes hnone hrest =>
      rcases List.mem_cons.mp hc with rfl | hc
      · exact hnone x
      · exact ih hrest hc

/-- Whether what a tier comes up with is the winner of a contest, or nobody stands in it. -/
structure Serves (c : Contest) (found : Option Target) : Prop where
  winner : ∀ t, found = some t → ∃ x, c.Wins x ∧ t.file = c.path x ∧ t.tier = c.tier
  nobody : found = none → ∀ x, ¬c.Stands x

end Contest

namespace SelectionInput

variable (input : SelectionInput)

/-- Whether a path is open to a tier: not dealt with, among the targets or else selected by the filters, and a file that may be
refactored unless that does not matter. -/
structure Open (anyFile : Bool) (path : String) : Prop where
  undone : normalizePath path ∉ input.filesCompleted.map normalizePath
  fresh : normalizePath path ∉ input.skipped.map normalizePath
  targeted : ∀ targets, input.targets = some targets → normalizePath path ∈ targets.map normalizePath
  filtered : input.targets = none → input.filters.passes (normalizePath path) = true
  refactorable : anyFile = false → isNonRefactorable (normalizePath path) = false

/-- The findings of a path. -/
def violationsAt (path : String) : List Violation := input.violations.filter fun v => normalizePath v.file == path

/-- The compilation errors of a path. -/
def errorsAt (path : String) : List CompilationError := input.compilationErrors.filter fun e => normalizePath e.file == path

/-- The cached coverage of a path. -/
def coverageAt (missing : Number) (path : String) : Number := (input.coverageByFile.get? path).getD missing

/-- Many findings first, then grave ones, then little coverage, all of it when nothing is cached, then by name. -/
def lintContest : Contest where
  tier := .lint
  Candidate := String
  Stands path := input.Open true path ∧ ∃ v ∈ input.violations, normalizePath v.file = path
  order a b :=
    (compare (input.violationsAt b).length (input.violationsAt a).length).then <|
      (compare (severityScore (input.violationsAt b) input.issueKeywords)
        (severityScore (input.violationsAt a) input.issueKeywords)).then <|
        (Number.order (input.coverageAt 100 a) (input.coverageAt 100 b)).then (Collation.order a b)
  path := id

/-- Many errors first, then by name. -/
def buildContest : Contest where
  tier := .build
  Candidate := String
  Stands path := input.Open true path ∧ ∃ e ∈ input.compilationErrors, normalizePath e.file = path
  order a b := (compare (input.errorsAt b).length (input.errorsAt a).length).then (Collation.order a b)
  path := id

/-- The source files short of coverage, no coverage when nothing is cached. Work on coverage alone goes to files of enough lines:
little coverage first, then many lines, then by name. Otherwise they come by name. -/
def coverageContest : Contest where
  tier := .coverage
  Candidate := SourceFile
  Stands f :=
    f ∈ input.sourceFiles ∧ input.Open false (normalizePath f.path) ∧
      (input.coverageAt 0 (normalizePath f.path)).lt input.profile.coverageMin = true ∧
      (input.coverageDriven = true → Number.le 20 f.sloc = true)
  order a b :=
    if input.coverageDriven then
      (Number.order (input.coverageAt 0 (normalizePath a.path)) (input.coverageAt 0 (normalizePath b.path))).then <|
        (Number.order b.sloc a.sloc).then (Collation.order (normalizePath a.path) (normalizePath b.path))
    else Collation.order (normalizePath a.path) (normalizePath b.path)
  path f := normalizePath f.path

/-- While some complexity is over the limit, the files with a function over it: great complexity first, then by name. -/
def complexityContest : Contest where
  tier := .complexity
  Candidate := FileComplexity
  Stands f :=
    input.profile.complexityMax.lt input.metrics.maxComplexity = true ∧ f ∈ input.complexity ∧
      input.Open false (normalizePath f.path) ∧
      ∃ fn ∈ f.functions, input.profile.complexityMax.lt (Number.ofNat fn.cyclomatic) = true
  order a b := (compare b.maxCyclomatic a.maxCyclomatic).then (Collation.order (normalizePath a.path) (normalizePath b.path))
  path f := normalizePath f.path

/-- While there is debt, the files with some: much debt first, then by name. -/
def satdContest : Contest where
  tier := .satd
  Candidate := String × Number
  Stands e :=
    Number.lt 0 input.metrics.satdCount = true ∧ e ∈ input.satdByFile ∧ input.Open false (normalizePath e.1) ∧
      Number.lt 0 e.2 = true
  order a b := (Number.order b.2 a.2).then (Collation.order (normalizePath a.1) (normalizePath b.1))
  path e := normalizePath e.1

/-- The contests of the tiers, in order of priority. -/
def contests : List Contest :=
  [input.lintContest, input.buildContest, input.coverageContest, input.complexityContest, input.satdContest]

/-- Whether a choice is the right one. -/
def Optimal (s : Selection) : Prop := Contest.Decides input.contests s

/-- Whether different paths of candidates have different places in reading order. -/
def Distinguished : Prop := ∀ c ∈ input.contests, c.Named

/-- Whether the coverage of a path is asked for. -/
def Consults (path : String) : Prop :=
  input.lintContest.Stands path ∨ input.Open false path ∧ ∃ f ∈ input.sourceFiles, normalizePath f.path = path

end SelectionInput

/-- Whether a record answers for a path itself: it has the path, or it does not inherit it. -/
def Answers (coverage : Record Number) (path : String) : Prop :=
  (coverage.get? path).isSome = true ∨ Inherited.ofName? path = none

instance (coverage : Record Number) (path : String) : Decidable (Answers coverage path) :=
  inferInstanceAs <| Decidable <| (coverage.get? path).isSome = true ∨ Inherited.ofName? path = none

namespace Contest

/-- The choice that what the tiers come up with leads to. -/
def choice (reason : String) : Option Target → Selection
  | some target => .selected target
  | none => .exhausted reason

/-- A contest that is served decides, or leaves the decision to those behind it. -/
theorem Serves.decides {c : Contest} {rest : List Contest} {found others : Option Target} {reason : String}
    (h : c.Serves found) (hrest : Decides rest (choice reason others)) : Decides (c :: rest) (choice reason (found <|> others)) := by
  cases found with
  | none => exact .passes (h.nobody rfl) hrest
  | some t =>
    obtain ⟨x, hwins, hfile, htier⟩ := h.winner t rfl
    obtain ⟨file, tier, reason⟩ := t
    subst hfile htier
    exact .wins hwins

/-- The last contest that is served decides, or nobody is left. -/
theorem Serves.decides_last {c : Contest} {found : Option Target} {reason : String} (h : c.Serves found) :
    Decides [c] (choice reason found) := by
  have hlast := @Serves.decides c [] found none reason h .exhausted
  cases found <;> exact hlast

/-- A tier serves a contest when it ranks the images of those who stand, by an order that agrees with a proper one. -/
theorem serves_best {tier : Tier} {α β : Type} {stands : α → Prop} {order : α → α → Ordering} {path : α → String}
    {ranking o : β → β → Ordering} [TransCmp o] {items : List β} {g : α → β} {target : β → Target}
    (hitems : ∀ y, y ∈ items ↔ ∃ x, stands x ∧ g x = y)
    (hranking : ∀ x y, stands x → stands y → ranking (g x) (g y) = o (g x) (g y))
    (horder : ∀ x y, stands x → stands y → order x y = o (g x) (g y))
    (hnamed : ∀ x y, stands x → stands y → order x y = .eq → path y = path x)
    (hpath : ∀ x, (target (g x)).file = path x) (htier : ∀ y, (target y).tier = tier) :
    Serves ⟨tier, α, stands, order, path⟩ ((Select.best? ranking items).map target) := by
  have hbest : Select.best? ranking items = (sortBy o items).head? := by
    refine congrArg List.head? (sortBy_congr fun y hy z hz => ?_)
    obtain ⟨x, hx, rfl⟩ := (hitems y).mp hy
    obtain ⟨x', hx', rfl⟩ := (hitems z).mp hz
    exact hranking x x' hx hx'
  rw [hbest]
  refine ⟨fun t ht => ?_, fun hnone x hx => ?_⟩
  · obtain ⟨y, hy, rfl⟩ := Option.map_eq_some_iff.mp ht
    obtain ⟨hmem, hleast⟩ := head?_sortBy hy
    obtain ⟨x, hx, rfl⟩ := (hitems y).mp hmem
    refine ⟨x, ⟨hx, fun z hz => ?_, fun z hz => hnamed x z hx hz⟩, hpath x, htier _⟩
    show order x z ≠ .gt
    rw [horder x z hx hz]
    exact hleast _ ((hitems _).mpr ⟨z, hz, rfl⟩)
  · have hempty := head?_sortBy_eq_none.mp (Option.map_eq_none_iff.mp hnone)
    have hmem := (hitems _).mpr ⟨x, hx, rfl⟩
    rw [hempty] at hmem
    cases hmem

end Contest

namespace SelectionInput

variable {input : SelectionInput}

theorem listed_iff {paths : List String} {path : String} : listed paths path = true ↔ path ∈ paths.map normalizePath :=
  List.contains_iff_mem

/-- A path is eligible when it is open to the tier. -/
theorem eligible_iff {anyFile : Bool} {path : String} : input.eligible path anyFile = true ↔ input.Open anyFile path := by
  unfold eligible
  simp only [Bool.and_eq_true, Bool.or_eq_true, Bool.not_eq_true', ← Bool.not_eq_true, listed_iff, Option.all_eq_true]
  constructor
  · rintro ⟨⟨⟨⟨hdone, hseen⟩, htargets⟩, hany⟩, hfilters⟩
    refine ⟨hdone, hseen, htargets, fun hnone => ?_, fun hfalse => ?_⟩
    · rw [hnone] at hfilters
      exact hfilters.resolve_left nofun
    · rw [hfalse] at hany
      exact Bool.eq_false_iff.mpr (hany.resolve_left nofun)
  · rintro ⟨hdone, hseen, htargets, hfilters, hany⟩
    refine ⟨⟨⟨⟨hdone, hseen⟩, htargets⟩, ?_⟩, ?_⟩
    · cases anyFile with
      | true => exact .inl rfl
      | false => exact .inr (Bool.eq_false_iff.mp (hany rfl))
    · cases h : input.targets with
      | some targets => exact .inl rfl
      | none => exact .inr (hfilters h)

end SelectionInput

/-- A record that answers for a path gives its entry, or what stands for a missing one. -/
theorem numberOr_of_answers {coverage : Record Number} {path : String} (h : Answers coverage path) (missing : Number) :
    coverage.numberOr path missing = (coverage.get? path).getD missing := by
  unfold Record.numberOr
  cases hget : coverage.get? path with
  | some x => rfl
  | none =>
    rcases h with hsome | hnone
    · rw [hget] at hsome
      cases hsome
    · rw [hnone]
      rfl

/-- What a record has is one of its values. -/
theorem exists_mem_of_get? {α : Type} {r : Record α} {name : String} {value : α} (h : r.get? name = some value) :
    (name, value) ∈ r := by
  obtain ⟨before, after, rfl, -⟩ := List.lookup_eq_some_iff.mp h
  exact List.mem_append_right before (List.mem_cons_self ..)

namespace SelectionInput

variable {input : SelectionInput}

/-- The cached coverage is a number where all entries are. -/
theorem isNan_coverageAt (numbers : ∀ entry ∈ input.coverageByFile, entry.2.isNan = false) {missing : Number}
    (hmissing : missing.isNan = false) (path : String) : (input.coverageAt missing path).isNan = false := by
  unfold coverageAt
  cases hget : input.coverageByFile.get? path with
  | some x => exact numbers _ (exists_mem_of_get? hget)
  | none => exact hmissing

end SelectionInput

namespace Select

variable {input : SelectionInput}

theorem best?_nil {α : Type} (order : α → α → Ordering) : best? order [] = none := head?_sortBy_eq_none.mpr rfl

/-! ## Lint findings -/

/-- The order of candidates where every coverage is a number. -/
def LintCandidate.definiteOrder (a b : LintCandidate) : Ordering :=
  (compare b.count a.count).then <| (compare b.severity a.severity).then <|
    (compare a.coverage.place b.coverage.place).then (Collation.order a.file b.file)

instance : TransCmp LintCandidate.definiteOrder :=
  inferInstanceAs <| TransCmp <| compareLex (fun a b : LintCandidate => compare b.count a.count) <|
    compareLex (fun a b : LintCandidate => compare b.severity a.severity) <|
      compareLex (fun a b : LintCandidate => compare a.coverage.place b.coverage.place) fun a b => Collation.order a.file b.file

/-- Candidates whose coverage is a number are in the definite order. -/
theorem LintCandidate.order_eq {a b : LintCandidate} (ha : a.coverage.isNan = false) (hb : b.coverage.isNan = false) :
    a.order b = a.definiteOrder b := by
  unfold LintCandidate.order LintCandidate.definiteOrder
  rw [Number.same_eq_order_isEq ha hb, Number.order_eq_compare ha hb]
  cases compare a.coverage.place b.coverage.place <;> rfl

/-- A path with findings as a candidate. -/
def lintImage (input : SelectionInput) (path : String) : LintCandidate :=
  ⟨path, (input.violationsAt path).length, severityScore (input.violationsAt path) input.issueKeywords,
    input.coverageByFile.numberOr path 100⟩

/-- The candidates of the first tier are those who stand in its contest. -/
theorem mem_lintCandidates {c : LintCandidate} :
    c ∈ lintCandidates input ↔ ∃ path, input.lintContest.Stands path ∧ lintImage input path = c := by
  unfold lintCandidates
  rw [List.mem_map]
  constructor
  · rintro ⟨⟨path, vs⟩, hmem, rfl⟩
    obtain ⟨hgroup, hopen⟩ := List.mem_filter.mp hmem
    obtain ⟨rfl, hne⟩ := mem_groupBy.mp hgroup
    obtain ⟨v, hv⟩ := List.exists_mem_of_ne_nil _ hne
    obtain ⟨hv, hkey⟩ := List.mem_filter.mp hv
    exact ⟨path, ⟨SelectionInput.eligible_iff.mp hopen, v, hv, eq_of_beq hkey⟩, rfl⟩
  · rintro ⟨path, ⟨hopen, v, hv, hkey⟩, rfl⟩
    have hne : input.violationsAt path ≠ [] := List.ne_nil_of_mem (List.mem_filter.mpr ⟨hv, beq_iff_eq.mpr hkey⟩)
    exact ⟨(path, input.violationsAt path), List.mem_filter.mpr ⟨mem_groupBy.mpr ⟨rfl, hne⟩, SelectionInput.eligible_iff.mpr hopen⟩, rfl⟩

/-- The tier of lint findings serves its contest when the coverage of everyone who stands is a number. -/
theorem serves_lint (numbers : ∀ entry ∈ input.coverageByFile, entry.2.isNan = false)
    (answers : ∀ path, input.lintContest.Stands path → Answers input.coverageByFile path) (named : input.lintContest.Named) :
    input.lintContest.Serves (lint? input) := by
  have hcoverage : ∀ path, input.lintContest.Stands path → (lintImage input path).coverage = input.coverageAt 100 path :=
    fun path hpath => numberOr_of_answers (answers path hpath) 100
  have hnumber : ∀ path, input.lintContest.Stands path → (lintImage input path).coverage.isNan = false := by
    intro path hpath
    rw [hcoverage path hpath]
    exact SelectionInput.isNan_coverageAt numbers (by decide +kernel) path
  have horder : ∀ x y, input.lintContest.Stands x → input.lintContest.Stands y →
      (lintImage input x).order (lintImage input y) = (lintImage input x).definiteOrder (lintImage input y) :=
    fun x y hx hy => LintCandidate.order_eq (hnumber x hx) (hnumber y hy)
  have hcontest : ∀ x y, input.lintContest.Stands x → input.lintContest.Stands y →
      input.lintContest.order x y = (lintImage input x).definiteOrder (lintImage input y) := by
    intro x y hx hy
    unfold LintCandidate.definiteOrder
    rw [← Number.order_eq_compare (hnumber x hx) (hnumber y hy), hcoverage x hx, hcoverage y hy]
    rfl
  have hcomparable : (lintCandidates input).all (fun c => !c.coverage.isNan) = true := by
    refine List.all_eq_true.mpr fun c hc => ?_
    obtain ⟨path, hpath, rfl⟩ := mem_lintCandidates.mp hc
    rw [hnumber path hpath]
    rfl
  have hlint : lint? input = (best? LintCandidate.order (lintCandidates input)).map fun c =>
      ⟨c.file, .lint, s!"{c.count} lint violations (severity score {c.severity})"⟩ := by
    unfold lint? rankedByLint Ranking.rank
    rw [if_pos hcomparable]
    rfl
  rw [hlint]
  refine Contest.serves_best (fun _ => mem_lintCandidates) horder hcontest (fun x y hx hy heq => named x y hx hy ?_)
    (fun _ => rfl) fun _ => rfl
  exact (Ordering.then_eq_eq.mp (Ordering.then_eq_eq.mp (Ordering.then_eq_eq.mp heq).2).2).2

/-! ## Compilation errors -/

instance : TransCmp countOrder :=
  inferInstanceAs <| TransCmp <| compareLex (fun a b : String × Nat => compare b.2 a.2) fun a b => Collation.order a.1 b.1

/-- The candidates of the second tier are those who stand in its contest, with their errors. -/
theorem mem_buildCandidates {c : String × Nat} :
    c ∈ buildCandidates input ↔ ∃ path, input.buildContest.Stands path ∧ (path, (input.errorsAt path).length) = c := by
  unfold buildCandidates
  rw [List.mem_map]
  constructor
  · rintro ⟨⟨path, es⟩, hmem, rfl⟩
    obtain ⟨hgroup, hopen⟩ := List.mem_filter.mp hmem
    obtain ⟨rfl, hne⟩ := mem_groupBy.mp hgroup
    obtain ⟨e, he⟩ := List.exists_mem_of_ne_nil _ hne
    obtain ⟨he, hkey⟩ := List.mem_filter.mp he
    exact ⟨path, ⟨SelectionInput.eligible_iff.mp hopen, e, he, eq_of_beq hkey⟩, rfl⟩
  · rintro ⟨path, ⟨hopen, e, he, hkey⟩, rfl⟩
    have hne : input.errorsAt path ≠ [] := List.ne_nil_of_mem (List.mem_filter.mpr ⟨he, beq_iff_eq.mpr hkey⟩)
    exact ⟨(path, input.errorsAt path), List.mem_filter.mpr ⟨mem_groupBy.mpr ⟨rfl, hne⟩, SelectionInput.eligible_iff.mpr hopen⟩, rfl⟩

/-- The second tier comes up with the winner of its contest. -/
theorem serves_build (named : input.buildContest.Named) : input.buildContest.Serves (build? input) := by
  refine Contest.serves_best (fun _ => mem_buildCandidates) (fun _ _ _ _ => rfl) (fun _ _ _ _ => rfl)
    (fun x y hx hy heq => named x y hx hy ?_) (fun _ => rfl) fun _ => rfl
  exact (Ordering.then_eq_eq.mp heq).2

/-! ## Coverage -/

/-- The order of candidates where every coverage and every count of lines is a number. -/
def CoverageCandidate.definiteOrder (a b : CoverageCandidate) : Ordering :=
  (compare a.coverage.place b.coverage.place).then <|
    (compare b.sloc.place a.sloc.place).then (Collation.order a.path b.path)

instance : TransCmp CoverageCandidate.definiteOrder :=
  inferInstanceAs <| TransCmp <| compareLex (fun a b : CoverageCandidate => compare a.coverage.place b.coverage.place) <|
    compareLex (fun a b : CoverageCandidate => compare b.sloc.place a.sloc.place) fun a b => Collation.order a.path b.path

def CoverageCandidate.nameOrder (a b : CoverageCandidate) : Ordering := Collation.order a.path b.path

instance : TransCmp CoverageCandidate.nameOrder := inferInstanceAs <| TransCmp fun a b : CoverageCandidate => Collation.order a.path b.path

/-- Candidates whose coverage and lines are numbers are in the definite order. -/
theorem CoverageCandidate.order_eq {a b : CoverageCandidate} (ha : a.coverage.isNan = false) (hb : b.coverage.isNan = false)
    (hal : a.sloc.isNan = false) (hbl : b.sloc.isNan = false) : a.order b = a.definiteOrder b := by
  unfold CoverageCandidate.order CoverageCandidate.definiteOrder
  rw [Number.order_eq_compare ha hb, Number.order_eq_compare hbl hal]

/-- A source file as a candidate. -/
def coverageImage (input : SelectionInput) (f : SourceFile) : CoverageCandidate :=
  ⟨normalizePath f.path, f.sloc, input.coverageByFile.numberOr (normalizePath f.path) 0⟩

/-- The candidates of the third tier are the open source files short of coverage. -/
theorem mem_coverageCandidates {c : CoverageCandidate} : c ∈ coverageCandidates input ↔
    ∃ f, (f ∈ input.sourceFiles ∧ input.Open false (normalizePath f.path)) ∧
      (coverageImage input f).coverage.lt input.profile.coverageMin = true ∧ coverageImage input f = c := by
  unfold coverageCandidates
  simp only [List.mem_filter, List.mem_map, SelectionInput.eligible_iff]
  constructor
  · rintro ⟨⟨_, ⟨⟨f, hf, rfl⟩, hopen⟩, rfl⟩, hlt⟩
    exact ⟨f, ⟨hf, hopen⟩, hlt, rfl⟩
  · rintro ⟨f, ⟨hf, hopen⟩, hlt, rfl⟩
    exact ⟨⟨_, ⟨⟨f, hf, rfl⟩, hopen⟩, rfl⟩, hlt⟩

/-- Without candidates the third tier comes up with nothing. -/
theorem coverage?_eq_none (h : coverageCandidates input = []) : coverage? input = none := by
  unfold coverage?
  rw [h]
  dsimp only
  split
  · rw [List.filter_nil, best?_nil, Option.map_none]
  · rw [best?_nil, Option.map_none]

/-- Work on coverage alone: files of enough lines stand, little coverage first. -/
theorem serves_coverage_of_driven
    (answers : ∀ f ∈ input.sourceFiles, input.Open false (normalizePath f.path) → Answers input.coverageByFile (normalizePath f.path))
    (named : input.coverageContest.Named) (hdriven : input.coverageDriven = true) :
    input.coverageContest.Serves (coverage? input) := by
  have hcoverage : ∀ f ∈ input.sourceFiles, input.Open false (normalizePath f.path) →
      (coverageImage input f).coverage = input.coverageAt 0 (normalizePath f.path) :=
    fun f hf hopen => numberOr_of_answers (answers f hf hopen) 0
  unfold coverage?
  dsimp only
  rw [if_pos hdriven]
  have hcontest : ∀ x y : SourceFile, input.coverageContest.Stands x → input.coverageContest.Stands y →
      input.coverageContest.order x y = (coverageImage input x).order (coverageImage input y) := by
    rintro x y ⟨hx, hxopen, -⟩ ⟨hy, hyopen, -⟩
    unfold CoverageCandidate.order
    rw [hcoverage x hx hxopen, hcoverage y hy hyopen]
    exact if_pos hdriven
  have horder : ∀ x y : SourceFile, input.coverageContest.Stands x → input.coverageContest.Stands y →
      (coverageImage input x).order (coverageImage input y) = (coverageImage input x).definiteOrder (coverageImage input y) := by
    rintro x y ⟨hx, hxopen, hxshort, hxlines⟩ ⟨hy, hyopen, hyshort, hylines⟩
    rw [← hcoverage x hx hxopen] at hxshort
    rw [← hcoverage y hy hyopen] at hyshort
    exact CoverageCandidate.order_eq (Number.isNan_of_lt_left hxshort) (Number.isNan_of_lt_left hyshort)
      (Number.isNan_of_le_right (hxlines hdriven)) (Number.isNan_of_le_right (hylines hdriven))
  have hnamed : ∀ x y : SourceFile, input.coverageContest.Stands x → input.coverageContest.Stands y →
      input.coverageContest.order x y = .eq → normalizePath y.path = normalizePath x.path := by
    intro x y hx hy heq
    rw [hcontest x y hx hy] at heq
    exact named x y hx hy (Ordering.then_eq_eq.mp (Ordering.then_eq_eq.mp heq).2).2
  refine Contest.serves_best (g := coverageImage input) (fun c => ?_) horder
    (fun x y hx hy => (hcontest x y hx hy).trans (horder x y hx hy)) hnamed (fun _ => rfl) fun _ => rfl
  rw [List.mem_filter, mem_coverageCandidates]
  constructor
  · rintro ⟨⟨f, ⟨hf, hopen⟩, hshort, rfl⟩, hlines⟩
    rw [hcoverage f hf hopen] at hshort
    exact ⟨f, ⟨hf, hopen, hshort, fun _ => hlines⟩, rfl⟩
  · rintro ⟨f, ⟨hf, hopen, hshort, hlines⟩, rfl⟩
    rw [← hcoverage f hf hopen] at hshort
    exact ⟨⟨f, ⟨hf, hopen⟩, hshort, rfl⟩, hlines hdriven⟩

/-- Other work: every file short of coverage stands, by name. -/
theorem serves_coverage_of_not_driven
    (answers : ∀ f ∈ input.sourceFiles, input.Open false (normalizePath f.path) → Answers input.coverageByFile (normalizePath f.path))
    (named : input.coverageContest.Named) (hdriven : ¬input.coverageDriven = true) :
    input.coverageContest.Serves (coverage? input) := by
  have hcoverage : ∀ f ∈ input.sourceFiles, input.Open false (normalizePath f.path) →
      (coverageImage input f).coverage = input.coverageAt 0 (normalizePath f.path) :=
    fun f hf hopen => numberOr_of_answers (answers f hf hopen) 0
  unfold coverage?
  dsimp only
  rw [if_neg hdriven]
  have hcontest : ∀ x y : SourceFile, input.coverageContest.order x y =
      (coverageImage input x).nameOrder (coverageImage input y) := fun x y => if_neg hdriven
  have hnamed : ∀ x y : SourceFile, input.coverageContest.Stands x → input.coverageContest.Stands y →
      input.coverageContest.order x y = .eq → normalizePath y.path = normalizePath x.path := by
    intro x y hx hy heq
    rw [hcontest] at heq
    exact named x y hx hy heq
  refine Contest.serves_best (g := coverageImage input) (o := CoverageCandidate.nameOrder) (fun c => ?_)
    (fun _ _ _ _ => rfl) (fun x y _ _ => hcontest x y) hnamed (fun _ => rfl) fun _ => rfl
  rw [mem_coverageCandidates]
  constructor
  · rintro ⟨f, ⟨hf, hopen⟩, hshort, rfl⟩
    rw [hcoverage f hf hopen] at hshort
    exact ⟨f, ⟨hf, hopen, hshort, fun h => absurd h hdriven⟩, rfl⟩
  · rintro ⟨f, ⟨hf, hopen, hshort, -⟩, rfl⟩
    rw [← hcoverage f hf hopen] at hshort
    exact ⟨f, ⟨hf, hopen⟩, hshort, rfl⟩

/-- The tier of coverage serves its contest when the coverage of everyone who is looked at is a number. -/
theorem serves_coverage
    (answers : ∀ f ∈ input.sourceFiles, input.Open false (normalizePath f.path) → Answers input.coverageByFile (normalizePath f.path))
    (named : input.coverageContest.Named) : input.coverageContest.Serves (coverage? input) := by
  by_cases hdriven : input.coverageDriven = true
  · exact serves_coverage_of_driven answers named hdriven
  · exact serves_coverage_of_not_driven answers named hdriven

/-! ## Complexity and debt -/

/-- The candidates of the fourth tier are those who stand in its contest, with their complexity. -/
theorem mem_complexityCandidates {c : String × Nat}
    (hmax : input.profile.complexityMax.lt input.metrics.maxComplexity = true) :
    c ∈ complexityCandidates input ↔
      ∃ f : FileComplexity, input.complexityContest.Stands f ∧ (normalizePath f.path, f.maxCyclomatic) = c := by
  unfold complexityCandidates
  simp only [List.mem_map, List.mem_filter, Bool.and_eq_true, List.any_eq_true, SelectionInput.eligible_iff]
  constructor
  · rintro ⟨f, ⟨hf, hopen, hover⟩, rfl⟩
    exact ⟨f, ⟨hmax, hf, hopen, hover⟩, rfl⟩
  · rintro ⟨f, ⟨-, hf, hopen, hover⟩, rfl⟩
    exact ⟨f, ⟨hf, hopen, hover⟩, rfl⟩

/-- The fourth tier comes up with the winner of its contest. -/
theorem serves_complexity (named : input.complexityContest.Named) : input.complexityContest.Serves (complexity? input) := by
  unfold complexity?
  by_cases hmax : input.profile.complexityMax.lt input.metrics.maxComplexity = true
  · rw [if_pos hmax]
    refine Contest.serves_best (fun _ => mem_complexityCandidates hmax) (fun _ _ _ _ => rfl) (fun _ _ _ _ => rfl)
      (fun x y hx hy heq => named x y hx hy ?_) (fun _ => rfl) fun _ => rfl
    exact (Ordering.then_eq_eq.mp heq).2
  · rw [if_neg hmax]
    exact ⟨nofun, fun _ x hx => hmax hx.1⟩

/-- The order of candidates where every count is a number. -/
def debtOrder (a b : String × Number) : Ordering := (compare b.2.place a.2.place).then (Collation.order a.1 b.1)

instance : TransCmp debtOrder :=
  inferInstanceAs <| TransCmp <| compareLex (fun a b : String × Number => compare b.2.place a.2.place) fun a b =>
    Collation.order a.1 b.1

/-- Files with some debt are in the order of it, then by name. -/
theorem debtOrder_eq {a b : String × Number} (ha : Number.lt 0 a.2 = true) (hb : Number.lt 0 b.2 = true) :
    (Number.order b.2 a.2).then (Collation.order a.1 b.1) = debtOrder a b := by
  rw [debtOrder, Number.order_eq_compare (Number.isNan_of_lt_right hb) (Number.isNan_of_lt_right ha)]

/-- The candidates of the last tier are those who stand in its contest, with their debt. -/
theorem mem_satdCandidates {c : String × Number} (hdebt : Number.lt 0 input.metrics.satdCount = true) :
    c ∈ satdCandidates input ↔ ∃ e : String × Number, input.satdContest.Stands e ∧ (normalizePath e.1, e.2) = c := by
  unfold satdCandidates
  simp only [List.mem_filter, List.mem_map, Bool.and_eq_true]
  constructor
  · rintro ⟨⟨e, he, rfl⟩, hcount, hopen⟩
    exact ⟨e, ⟨hdebt, he, SelectionInput.eligible_iff.mp hopen, hcount⟩, rfl⟩
  · rintro ⟨e, ⟨-, he, hopen, hcount⟩, rfl⟩
    exact ⟨⟨e, he, rfl⟩, hcount, SelectionInput.eligible_iff.mpr hopen⟩

/-- The last tier comes up with the winner of its contest. -/
theorem serves_satd (named : input.satdContest.Named) : input.satdContest.Serves (satd? input) := by
  unfold satd?
  by_cases hdebt : Number.lt 0 input.metrics.satdCount = true
  · rw [if_pos hdebt]
    have horder : ∀ x y : String × Number, input.satdContest.Stands x → input.satdContest.Stands y →
        input.satdContest.order x y = debtOrder (normalizePath x.1, x.2) (normalizePath y.1, y.2) :=
      fun x y hx hy => @debtOrder_eq (normalizePath x.1, x.2) (normalizePath y.1, y.2) hx.2.2.2 hy.2.2.2
    refine Contest.serves_best (o := debtOrder) (fun _ => mem_satdCandidates hdebt) horder horder
      (fun x y hx hy heq => named x y hx hy ?_) (fun _ => rfl) fun _ => rfl
    exact (Ordering.then_eq_eq.mp heq).2
  · rw [if_neg hdebt]
    exact ⟨nofun, fun _ x hx => hdebt hx.1⟩

/-! ## What is found is open -/

theorem mem_of_best? {α : Type} {order : α → α → Ordering} {items : List α} {x : α} (h : best? order items = some x) : x ∈ items :=
  mem_sortBy.mp (List.mem_of_head? h)

/-- What the first tier comes up with is open to it. -/
theorem open_of_lint {t : Target} (h : lint? input = some t) : input.Open true t.file := by
  obtain ⟨c, hc, rfl⟩ := Option.map_eq_some_iff.mp h
  obtain ⟨path, hpath, rfl⟩ := mem_lintCandidates.mp ((Ranking.rank_perm _ _ _).mem_iff.mp (List.mem_of_head? hc))
  exact hpath.1

/-- What the second tier comes up with is open to it. -/
theorem open_of_build {t : Target} (h : build? input = some t) : input.Open true t.file := by
  obtain ⟨c, hc, rfl⟩ := Option.map_eq_some_iff.mp h
  obtain ⟨path, hpath, rfl⟩ := mem_buildCandidates.mp (mem_of_best? hc)
  exact hpath.1

/-- What the third tier comes up with is open to it. -/
theorem open_of_coverage {t : Target} (h : coverage? input = some t) : input.Open false t.file := by
  have hcandidate : ∃ c ∈ coverageCandidates input, c.path = t.file := by
    unfold coverage? at h
    dsimp only at h
    split at h
    · obtain ⟨c, hc, rfl⟩ := Option.map_eq_some_iff.mp h
      exact ⟨c, (List.mem_filter.mp (mem_of_best? hc)).1, rfl⟩
    · obtain ⟨c, hc, rfl⟩ := Option.map_eq_some_iff.mp h
      exact ⟨c, mem_of_best? hc, rfl⟩
  obtain ⟨c, hc, hpath⟩ := hcandidate
  obtain ⟨f, ⟨-, hopen⟩, -, rfl⟩ := mem_coverageCandidates.mp hc
  exact hpath ▸ hopen

/-- What the fourth tier comes up with is open to it. -/
theorem open_of_complexity {t : Target} (h : complexity? input = some t) : input.Open false t.file := by
  unfold complexity? at h
  split at h
  · rename_i hmax
    obtain ⟨c, hc, rfl⟩ := Option.map_eq_some_iff.mp h
    obtain ⟨f, hf, rfl⟩ := (mem_complexityCandidates hmax).mp (mem_of_best? hc)
    exact hf.2.2.1
  · cases h

/-- What the last tier comes up with is open to it. -/
theorem open_of_satd {t : Target} (h : satd? input = some t) : input.Open false t.file := by
  unfold satd? at h
  split at h
  · rename_i hdebt
    obtain ⟨c, hc, rfl⟩ := Option.map_eq_some_iff.mp h
    obtain ⟨e, he, rfl⟩ := (mem_satdCandidates hdebt).mp (mem_of_best? hc)
    exact he.2.2.1
  · cases h

end Select

namespace SelectionInput

variable {input : SelectionInput}

/-- The target is that of the first tier that comes up with one. -/
theorem selectTarget_eq : selectTarget input = Contest.choice "No eligible file remains in any tier"
    (Select.lint? input <|> Select.build? input <|> Select.coverage? input <|> Select.complexity? input <|> Select.satd? input) := by
  unfold selectTarget Select.quality?
  cases Select.lint? input <|> Select.build? input <|> Select.coverage? input <|> Select.complexity? input <|> Select.satd? input <;> rfl

/-- The file that is chosen is open to the tier that chooses it. -/
theorem open_of_selectTarget {t : Target} (h : selectTarget input = .selected t) : ∃ anyFile, input.Open anyFile t.file := by
  rw [selectTarget_eq] at h
  cases hlint : Select.lint? input with
  | some found =>
    rw [hlint] at h
    obtain rfl := Selection.selected.inj h
    exact ⟨true, Select.open_of_lint hlint⟩
  | none =>
  cases hbuild : Select.build? input with
  | some found =>
    rw [hlint, hbuild] at h
    obtain rfl := Selection.selected.inj h
    exact ⟨true, Select.open_of_build hbuild⟩
  | none =>
  cases hcoverage : Select.coverage? input with
  | some found =>
    rw [hlint, hbuild, hcoverage] at h
    obtain rfl := Selection.selected.inj h
    exact ⟨false, Select.open_of_coverage hcoverage⟩
  | none =>
  cases hcomplexity : Select.complexity? input with
  | some found =>
    rw [hlint, hbuild, hcoverage, hcomplexity] at h
    obtain rfl := Selection.selected.inj h
    exact ⟨false, Select.open_of_complexity hcomplexity⟩
  | none =>
    rw [hlint, hbuild, hcoverage, hcomplexity] at h
    cases hsatd : Select.satd? input with
    | some found =>
      rw [hsatd] at h
      obtain rfl := Selection.selected.inj h
      exact ⟨false, Select.open_of_satd hsatd⟩
    | none =>
      rw [hsatd] at h
      cases h

/-- The choice is right when the coverage record answers for every path that it is asked about. -/
theorem optimal_of_answers (numbers : ∀ entry ∈ input.coverageByFile, entry.2.isNan = false)
    (answers : ∀ path, input.Consults path → Answers input.coverageByFile path) (distinguished : input.Distinguished) :
    input.Optimal (selectTarget input) := by
  have hlint := Select.serves_lint numbers (fun path hpath => answers path (.inl hpath)) (distinguished _ (by simp [contests]))
  have hbuild := Select.serves_build (distinguished input.buildContest (by simp [contests]))
  have hcoverage := Select.serves_coverage (fun f hf hopen => answers _ (.inr ⟨hopen, f, hf, rfl⟩))
    (distinguished input.coverageContest (by simp [contests]))
  have hcomplexity := Select.serves_complexity (distinguished input.complexityContest (by simp [contests]))
  have hsatd := Select.serves_satd (distinguished input.satdContest (by simp [contests]))
  rw [selectTarget_eq]
  exact hlint.decides (hbuild.decides (hcoverage.decides (hcomplexity.decides hsatd.decides_last)))

/-- One source file and a coverage record, and nothing else to choose from. -/
def ofSource (coverage : Record Number) (path : String) : SelectionInput :=
  { (default : SelectionInput) with
    profile := Profile.extreme, targets := none, coverageByFile := coverage, sourceFiles := [⟨path, 0⟩] }

/-- The names that a record inherits are spelled normally and open to every tier. -/
theorem open_of_inherited (coverage : Record Number) {path : String} (h : (Inherited.ofName? path).isSome = true) :
    normalizePath path = path ∧ (ofSource coverage path).Open false path := by
  have hall : ∀ name ∈ Inherited.baseName :: "constructor" :: Inherited.functionNames,
      normalizePath name = name ∧ (Filters.mk [] []).passes name = true ∧ isNonRefactorable name = false := by
    decide +kernel
  have hmem : path ∈ Inherited.baseName :: "constructor" :: Inherited.functionNames := by
    unfold Inherited.ofName? at h
    split at h
    · exact List.mem_cons.mpr (.inl ‹_›)
    · split at h
      · exact List.mem_cons_of_mem _ (List.mem_cons.mpr (.inl ‹_›))
      · split at h
        · exact List.mem_cons_of_mem _ (List.mem_cons_of_mem _ (List.contains_iff_mem.mp ‹_›))
        · cases h
  obtain ⟨hnormal, hpasses, hrefactorable⟩ := hall path hmem
  refine ⟨hnormal, List.not_mem_nil, List.not_mem_nil, nofun, fun _ => ?_, fun _ => ?_⟩
  · rw [hnormal]
    exact hpasses
  · rw [hnormal]
    exact hrefactorable

/-- Nobody but the source file stands in any contest. -/
theorem path_of_ofSource {coverage : Record Number} {path : String} {c : Contest} (hc : c ∈ (ofSource coverage path).contests)
    {x : c.Candidate} (hx : c.Stands x) : c.path x = normalizePath path := by
  simp only [contests, List.mem_cons, List.not_mem_nil, or_false] at hc
  rcases hc with rfl | rfl | rfl | rfl | rfl
  · obtain ⟨-, v, hv, -⟩ := hx
    cases hv
  · obtain ⟨-, e, he, -⟩ := hx
    cases he
  · have hsource : x = (⟨path, 0⟩ : SourceFile) := List.mem_singleton.mp hx.1
    rw [hsource]
    rfl
  · cases hx.2.1
  · cases hx.2.1

/-- One source file leaves no two paths to be told apart. -/
theorem distinguished_ofSource (coverage : Record Number) (path : String) : (ofSource coverage path).Distinguished := by
  intro c hc x y hx hy _
  rw [path_of_ofSource hc hx, path_of_ofSource hc hy]

/-- With one source file, only its own coverage is asked for. -/
theorem consults_ofSource {coverage : Record Number} {path other : String} (h : (ofSource coverage path).Consults other) :
    other = normalizePath path := by
  rcases h with ⟨-, v, hv, -⟩ | ⟨-, f, hf, rfl⟩
  · cases hv
  · rw [List.mem_singleton.mp hf]

/-- A path that a record does not answer for is passed over, though its coverage is missing. -/
theorem not_optimal_of_not_answers {coverage : Record Number} {path : String} (h : ¬Answers coverage path) :
    ¬(ofSource coverage path).Optimal (selectTarget (ofSource coverage path)) := by
  obtain ⟨hget, hname⟩ := not_or.mp h
  rw [Option.not_isSome_iff_eq_none] at hget
  obtain ⟨hnormal, hopen⟩ := open_of_inherited coverage (Option.isSome_iff_ne_none.mpr hname)
  -- what the path inherits is no number, which is not less than any limit, so that no tier comes up with it
  have hnan : coverage.numberOr (normalizePath path) 0 = .nan := by
    unfold Record.numberOr
    rw [hnormal, hget, if_pos (Option.isSome_iff_ne_none.mpr hname)]
  have hgaps : Select.coverageCandidates (ofSource coverage path) = [] := by
    refine List.eq_nil_iff_forall_not_mem.mpr fun c hc => ?_
    obtain ⟨f, ⟨hf, -⟩, hshort, -⟩ := Select.mem_coverageCandidates.mp hc
    obtain rfl := List.mem_singleton.mp hf
    have hcoverage : (Select.coverageImage (ofSource coverage path) ⟨path, 0⟩).coverage = .nan := hnan
    rw [hcoverage] at hshort
    cases hshort
  have hexhausted : selectTarget (ofSource coverage path) = .exhausted "No eligible file remains in any tier" := by
    have hlint : Select.lint? (ofSource coverage path) = none := congrArg (Option.map _) (Select.best?_nil Select.LintCandidate.order)
    have hbuild : Select.build? (ofSource coverage path) = none := congrArg (Option.map _) (Select.best?_nil Select.countOrder)
    have hcoverage := Select.coverage?_eq_none hgaps
    have hcomplexity : Select.complexity? (ofSource coverage path) = none := by
      unfold Select.complexity?
      split
      · exact congrArg (Option.map _) (Select.best?_nil Select.countOrder)
      · rfl
    have hsatd : Select.satd? (ofSource coverage path) = none := by
      unfold Select.satd?
      split
      · exact congrArg (Option.map _) (Select.best?_nil _)
      · rfl
    rw [selectTarget_eq, hlint, hbuild, hcoverage, hcomplexity, hsatd]
    rfl
  intro hoptimal
  rw [hexhausted] at hoptimal
  have hshort : Number.lt 0 Profile.extreme.coverageMin = true := by decide +kernel
  have hstands : (ofSource coverage path).coverageContest.Stands ⟨path, 0⟩ := by
    refine ⟨List.mem_singleton.mpr rfl, hnormal.symm ▸ hopen, ?_, nofun⟩
    unfold coverageAt
    rw [hnormal, show (ofSource coverage path).coverageByFile.get? path = none from hget]
    exact hshort
  exact hoptimal.nobody_of_exhausted (ofSource coverage path).coverageContest (by simp [contests]) _ hstands

end SelectionInput

/-- A coverage record of numbers answers for some paths exactly when the choice is right for every input with that record that asks it
about no others and in which different paths of candidates have different places in reading order. -/
theorem answers_iff_selectTarget_optimal (coverage : Record Number) (numbers : ∀ entry ∈ coverage, entry.2.isNan = false)
    (paths : String → Prop) :
    (∀ path, paths path → Answers coverage path) ↔
      ∀ input : SelectionInput, input.coverageByFile = coverage → (∀ path, input.Consults path → paths path) →
        input.Distinguished → input.Optimal (selectTarget input) := by
  constructor
  · rintro hanswers input rfl hconsults hdistinguished
    exact input.optimal_of_answers numbers (fun path hpath => hanswers path (hconsults path hpath)) hdistinguished
  · intro hoptimal path hpath
    by_contra hanswers
    have hinherited : (Inherited.ofName? path).isSome = true := Option.isSome_iff_ne_none.mpr (not_or.mp hanswers).2
    obtain ⟨hnormal, -⟩ := SelectionInput.open_of_inherited coverage hinherited
    refine SelectionInput.not_optimal_of_not_answers hanswers
      (hoptimal _ rfl (fun other hother => ?_) (SelectionInput.distinguished_ofSource coverage path))
    rwa [SelectionInput.consults_ofSource hother, hnormal]

/-- With its coverage recorded, a file with an inherited name is chosen rightly. -/
theorem recordedConstructor_optimal :
    (SelectionInput.ofSource [("constructor", 50)] "constructor").Optimal
      (selectTarget (SelectionInput.ofSource [("constructor", 50)] "constructor")) := by
  have hnumbers : ∀ entry ∈ [("constructor", (50 : Number))], entry.2.isNan = false := by decide +kernel
  have hanswers : ∀ path, path = "constructor" → Answers [("constructor", (50 : Number))] path := by
    rintro path rfl
    decide +kernel
  refine (answers_iff_selectTarget_optimal _ hnumbers (· = "constructor")).mp hanswers _ rfl (fun other hother => ?_)
    (SelectionInput.distinguished_ofSource _ _)
  rw [SelectionInput.consults_ofSource hother]
  decide +kernel

/-- With none recorded, it is passed over, though it is a source file without coverage. -/
theorem unrecordedConstructor_not_optimal :
    (SelectionInput.ofSource [] "constructor").Distinguished ∧
      ¬(SelectionInput.ofSource [] "constructor").Optimal (selectTarget (SelectionInput.ofSource [] "constructor")) :=
  ⟨SelectionInput.distinguished_ofSource [] "constructor", SelectionInput.not_optimal_of_not_answers (by decide +kernel)⟩

end QualityGate
