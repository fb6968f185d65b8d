import Mathlib.Algebra.Order.Archimedean.Real.Basic
import Mathlib.Algebra.Order.Floor.Ring
import Mathlib.Data.Option.NAry
import QualityGate.Gates

/-!
# Progress in exact numbers

The percentages of progress are computed here with real numbers (`Completion.of` over `ℝ`). Two things are shown of them. They lie between
0 and 100 and do not fall when the metrics get better, whatever guard a component changes sides of. And they are computed without a
division by zero: over numbers for which such a division has no result (`Option ℝ`) the same computation has its result.
-/

namespace QualityGate

open Arithmetic

/-- Real numbers, with the operations as they are. -/
noncomputable instance : Arithmetic ℝ where
  constant coefficient places := coefficient / 10 ^ places
  undefined _ := false
  less a b := decide (a < b)
  equal a b := decide (a = b)
  larger := max
  smaller := min
  nearest a := ⌊a + 1 / 2⌋

/-- Numbers for which a division by zero has no result, and neither has what is computed from it. -/
instance {ν : Type} [Arithmetic ν] : Arithmetic (Option ν) where
  add := Option.map₂ (· + ·)
  sub := Option.map₂ (· - ·)
  mul := Option.map₂ (· * ·)
  div a b := if b.any (equal · (whole 0)) then none else Option.map₂ (· / ·) a b
  constant coefficient places := some (constant coefficient places)
  undefined a := a.any undefined
  less a b := (Option.map₂ less a b).getD false
  equal a b := (Option.map₂ equal a b).getD false
  larger := Option.map₂ larger
  smaller := Option.map₂ smaller
  nearest := Option.map nearest

/-- Metrics with each number replaced. -/
def MetricsOf.map {α β : Type} (f : α → β) (m : MetricsOf α) : MetricsOf β :=
  ⟨f m.totalViolations, f m.filesWithIssues, f m.totalFiles, f m.coveragePercent, f m.maxComplexity, f m.functionsWithHighComplexity,
    f m.totalFunctions, f m.satdCount⟩

/-- Limits with each number replaced. -/
def ProfileOf.map {α β : Type} (f : α → β) (p : ProfileOf α) : ProfileOf β :=
  ⟨f p.coverageMin, f p.complexityMax, f p.complexityTarget, f p.satdAllowed⟩

/-- Percentages with each number replaced. -/
def Completion.map {α β : Type} (f : α → β) (c : Completion α) : Completion β :=
  ⟨f c.lint, f c.complexity, f c.satd, f c.coverage, f c.overall⟩

/-- All percentages of a completion. -/
def Completion.percentages {ν : Type} (c : Completion ν) : List ν := [c.overall, c.lint, c.complexity, c.satd, c.coverage]

/-- Metrics whose counts are not negative. -/
structure MetricsOf.Counted (m : MetricsOf ℝ) : Prop where
  totalViolations : 0 ≤ m.totalViolations
  filesWithIssues : 0 ≤ m.filesWithIssues
  totalFiles : 0 ≤ m.totalFiles
  maxComplexity : 0 ≤ m.maxComplexity
  functionsWithHighComplexity : 0 ≤ m.functionsWithHighComplexity
  totalFunctions : 0 ≤ m.totalFunctions
  satdCount : 0 ≤ m.satdCount

/-- Metrics of as large a project that are in nothing worse than others. -/
structure MetricsOf.NoWorse (better worse : MetricsOf ℝ) : Prop where
  totalFiles : better.totalFiles = worse.totalFiles
  totalFunctions : better.totalFunctions = worse.totalFunctions
  totalViolations : better.totalViolations ≤ worse.totalViolations
  filesWithIssues : better.filesWithIssues ≤ worse.filesWithIssues
  maxComplexity : better.maxComplexity ≤ worse.maxComplexity
  functionsWithHighComplexity : better.functionsWithHighComplexity ≤ worse.functionsWithHighComplexity
  satdCount : better.satdCount ≤ worse.satdCount
  coveragePercent : worse.coveragePercent ≤ better.coveragePercent

/-! ## Percentages -/

section Percentages

variable {x y : ℝ}

/-- A whole number among the reals is itself. -/
theorem whole_real (n : Int) : (whole n : ℝ) = n := by
  show (n : ℝ) / 10 ^ 0 = n
  rw [pow_zero, div_one]

/-- A real percentage is kept between zero and a hundred. -/
theorem clampPercent_real (x : ℝ) : clampPercent x = min 100 (max 0 x) := by
  show min (whole 100) (max (whole 0) x) = _
  rw [whole_real, whole_real]
  norm_num

/-- A real number is rounded to one decimal, a half upwards. -/
theorem round1_real (x : ℝ) : round1 x = (⌊x * 10 + 1 / 2⌋ : ℝ) / 10 := by
  show (⌊x * whole 10 + 1 / 2⌋ : ℝ) / whole 10 = _
  rw [whole_real]
  norm_num

/-- What is kept so is a percentage. -/
theorem clampPercent_mem (x : ℝ) : 0 ≤ clampPercent x ∧ clampPercent x ≤ 100 := by
  rw [clampPercent_real]
  exact ⟨le_min (by norm_num) (le_max_left _ _), min_le_left _ _⟩

/-- A larger number is kept as a percentage that is no smaller. -/
theorem clampPercent_mono (h : x ≤ y) : clampPercent x ≤ clampPercent y := by
  rw [clampPercent_real, clampPercent_real]
  exact min_le_min_left _ (max_le_max_left _ h)

/-- A larger number is rounded to one that is no smaller. -/
theorem round1_mono (h : x ≤ y) : round1 x ≤ round1 y := by
  rw [round1_real, round1_real]
  have hfloor : ⌊x * 10 + 1 / 2⌋ ≤ ⌊y * 10 + 1 / 2⌋ := Int.floor_mono (by linarith)
  have hcast : (⌊x * 10 + 1 / 2⌋ : ℝ) ≤ ⌊y * 10 + 1 / 2⌋ := by exact_mod_cast hfloor
  linarith

/-- A percentage between 0 and 100 is rounded to one between them. -/
theorem round1_mem (h : 0 ≤ x ∧ x ≤ 100) : 0 ≤ round1 x ∧ round1 x ≤ 100 := by
  have hzero : round1 (0 : ℝ) = 0 := by
    rw [round1_real]
    norm_num
  have hhundred : round1 (100 : ℝ) = 100 := by
    rw [round1_real]
    norm_num
  exact ⟨hzero ▸ round1_mono h.1, hhundred ▸ round1_mono h.2⟩

/-- The share that is left of a total grows when less is taken away. -/
theorem shareWithout_mono {part part' total : ℝ} (htotal : 0 ≤ total) (h : part' ≤ part) :
    shareWithout part total ≤ shareWithout part' total := by
  refine clampPercent_mono (div_le_div_of_nonneg_right (mul_le_mul_of_nonneg_left (by linarith) ?_) htotal)
  rw [whole_real]
  norm_num

/-- What is done beyond the most that was seen before counts from where it stands. -/
theorem shareWithout_larger_mono {part part' most : ℝ} (hmost : 0 ≤ most) (h : part' ≤ part) :
    shareWithout part (larger most part) ≤ shareWithout part' (larger most part') := by
  show shareWithout part (max most part) ≤ shareWithout part' (max most part')
  rcases le_or_gt part most with hle | hgt
  · rw [max_eq_left hle, max_eq_left (h.trans hle)]
    exact shareWithout_mono hmost h
  · -- More is left than ever before, so the share that is done is nothing.
    have hnothing : shareWithout part part = 0 := by
      show clampPercent (whole 100 * (part - part) / part) = 0
      rw [sub_self, mul_zero, zero_div, clampPercent_real]
      norm_num
    rw [max_eq_right hgt.le, hnothing]
    exact (clampPercent_mem _).1

/-- A component that is whole under a condition does not fall when the condition comes to hold or its share grows. -/
theorem wholeOr_mono {c c' : Bool} (hc : c = true → c' = true) (h : x ≤ y) (hx : x ≤ 100) :
    (if c then whole 100 else x) ≤ (if c' then whole 100 else y) := by
  rw [whole_real]
  push_cast
  cases c' with
  | true =>
    rw [if_pos rfl]
    split
    · exact le_rfl
    · exact hx
  | false =>
    have hfalse : ¬c = true := fun htrue => Bool.false_ne_true (hc htrue)
    rw [if_neg hfalse, if_neg Bool.false_ne_true]
    exact h

/-- All of it, or a percentage, is a percentage. -/
theorem wholeOr_mem {c : Bool} (h : 0 ≤ x ∧ x ≤ 100) : 0 ≤ (if c then whole 100 else x) ∧ (if c then whole 100 else x) ≤ 100 := by
  rw [whole_real]
  push_cast
  split
  · norm_num
  · exact h

end Percentages

/-! ## Divisions -/

section Divisions

variable {ν : Type} [Arithmetic ν]

/-- A number that is kept as a percentage is no division by zero. -/
theorem clampPercent_some (x : ν) : clampPercent (some x) = some (clampPercent x) := by
  unfold clampPercent
  rw [show undefined (some x) = undefined x from rfl]
  split <;> rfl

theorem div_some (x : ν) {y : ν} (h : equal y (whole 0) = false) : some x / some y = some (x / y) :=
  if_neg (by simpa using h)

/-- A share of something else than zero is no division by zero. -/
theorem shareWithout_some (part : ν) {total : ν} (h : equal total (whole 0) = false) :
    shareWithout (some part) (some total) = some (shareWithout part total) := by
  unfold shareWithout
  rw [show whole 100 * (some total - some part) = some (whole 100 * (total - part)) from rfl, div_some _ h, clampPercent_some]

/-- A completion has its result also where a division by zero has none. -/
theorem Completion.of_some (m : MetricsOf ν) (p : ProfileOf ν) (satdBaseline : ν) :
    Completion.of (m.map some) (p.map some) (some satdBaseline) = (Completion.of m p satdBaseline).map some := by
  have hwhole : ∀ {c : Bool} {x : Option ν} {y : ν}, (c = false → x = some y) →
      (if c then whole 100 else x) = some (if c then whole 100 else y) := by
    intro c x y h
    cases c with
    | true => rfl
    | false => exact h rfl
  have hlint := @hwhole (equal m.totalViolations (whole 0) || equal m.totalFiles (whole 0)) _ _
    fun h => shareWithout_some m.filesWithIssues (Bool.or_eq_false_iff.mp h).2
  have hcomplexity := @hwhole (atMost m.maxComplexity p.complexityMax || equal m.totalFunctions (whole 0)) _ _
    fun h => shareWithout_some m.functionsWithHighComplexity (Bool.or_eq_false_iff.mp h).2
  have hsatd := @hwhole (equal (larger satdBaseline m.satdCount) (whole 0)) _ _
    fun h => shareWithout_some m.satdCount h
  have hcoverage := clampPercent_some m.coveragePercent
  have hoverall : ∀ {a b c d : Option ν} {a' b' c' d' : ν}, a = some a' → b = some b' → c = some c' → d = some d' →
      constant 3 1 * a + constant 3 1 * b + constant 2 1 * c + constant 2 1 * d =
        some (constant 3 1 * a' + constant 3 1 * b' + constant 2 1 * c' + constant 2 1 * d') := by
    rintro _ _ _ _ a' b' c' d' rfl rfl rfl rfl
    rfl
  exact (Completion.mk.injEq ..).mpr ⟨hlint, hcomplexity, hsatd, hcoverage, hoverall hlint hcomplexity hsatd hcoverage⟩

/-- The test for zero tells the reals that are not zero. -/
theorem equal_real_eq_false {x : ℝ} (h : x ≠ 0) : equal x (whole 0) = false := by
  rw [whole_real]
  exact decide_eq_false (by simpa using h)

/-- Rounding is no division by zero. -/
theorem round1_some (x : ℝ) : round1 (some x) = some (round1 x) := by
  have hten : equal (whole 10 : ℝ) (whole 0) = false := equal_real_eq_false (by rw [whole_real]; norm_num)
  exact div_some _ hten

theorem Completion.rounded_some (c : Completion ℝ) : (c.map some).rounded = c.rounded.map some :=
  (Completion.mk.injEq ..).mpr ⟨round1_some _, round1_some _, round1_some _, round1_some _, round1_some _⟩

/-- The pace of the work is reckoned from more than 5% only, so that nothing is divided by zero. -/
theorem remainingMinutes_some (elapsed overall : ℝ) :
    remainingMinutes (some elapsed) (some overall) = some (remainingMinutes elapsed overall) := by
  have hhundred : equal (whole 100 : ℝ) (whole 0) = false := equal_real_eq_false (by rw [whole_real]; norm_num)
  have hsixty : equal (whole 60 : ℝ) (whole 0) = false := equal_real_eq_false (by rw [whole_real]; norm_num)
  have htotal : (if less (whole 5) (some overall) then larger (whole 0) (some elapsed) / (some overall / whole 100)
        else larger (whole 0) (some elapsed) * whole 20) =
      some (if less (whole 5) overall then larger (whole 0) elapsed / (overall / whole 100) else larger (whole 0) elapsed * whole 20) := by
    rw [show less (whole 5) (some overall) = less (whole 5) overall from rfl]
    cases hless : less (whole 5) overall with
    | false => rfl
    | true =>
      have hoverall : (5 : ℝ) < overall := by simpa [whole_real] using of_decide_eq_true hless
      have hshare : equal (overall / whole 100) (whole 0) = false := by
        refine equal_real_eq_false (div_ne_zero (by linarith) ?_)
        rw [whole_real]
        norm_num
      rw [if_pos rfl, if_pos rfl, show (whole 100 : Option ℝ) = some (whole 100) from rfl, div_some overall hhundred]
      exact div_some (larger (whole 0) elapsed) hshare
  unfold remainingMinutes
  dsimp only
  rw [htotal, ← round1_some]
  exact congrArg (fun x => round1 (larger (whole 0) x)) (div_some _ hsixty)

end Divisions

/-! ## Completion -/

namespace Completion

variable {m m' : MetricsOf ℝ} {p : ProfileOf ℝ} {satdBaseline : ℝ}

/-- The whole is a weighted mean of the components. -/
theorem overall_eq : (Completion.of m p satdBaseline).overall =
    3 / 10 * (Completion.of m p satdBaseline).lint + 3 / 10 * (Completion.of m p satdBaseline).complexity +
      2 / 10 * (Completion.of m p satdBaseline).satd + 2 / 10 * (Completion.of m p satdBaseline).coverage := by
  have hconstant : ∀ k : Int, (constant k 1 : ℝ) = k / 10 := fun k => by
    show (k : ℝ) / 10 ^ 1 = k / 10
    rw [pow_one]
  have hthree : (constant 3 1 : ℝ) = 3 / 10 := by rw [hconstant]; norm_num
  have htwo : (constant 2 1 : ℝ) = 2 / 10 := by rw [hconstant]; norm_num
  rw [← hthree, ← htwo]
  rfl

/-- All percentages of a completion are percentages. -/
theorem mem_percentages : ∀ x ∈ (Completion.of m p satdBaseline).percentages, 0 ≤ x ∧ x ≤ 100 := by
  have hlint : 0 ≤ (Completion.of m p satdBaseline).lint ∧ (Completion.of m p satdBaseline).lint ≤ 100 :=
    wholeOr_mem (clampPercent_mem _)
  have hcomplexity : 0 ≤ (Completion.of m p satdBaseline).complexity ∧ (Completion.of m p satdBaseline).complexity ≤ 100 :=
    wholeOr_mem (clampPercent_mem _)
  have hsatd : 0 ≤ (Completion.of m p satdBaseline).satd ∧ (Completion.of m p satdBaseline).satd ≤ 100 :=
    wholeOr_mem (clampPercent_mem _)
  have hcoverage : 0 ≤ (Completion.of m p satdBaseline).coverage ∧ (Completion.of m p satdBaseline).coverage ≤ 100 :=
    clampPercent_mem _
  have hoverall : 0 ≤ (Completion.of m p satdBaseline).overall ∧ (Completion.of m p satdBaseline).overall ≤ 100 := by
    rw [overall_eq]
    constructor <;> linarith
  simp only [percentages, List.forall_mem_cons]
  exact ⟨hoverall, hlint, hcomplexity, hsatd, hcoverage, List.forall_mem_nil _⟩

/-- No component falls when nothing gets worse. -/
theorem overall_mono (hbaseline : 0 ≤ satdBaseline) (hm' : m'.Counted) (h : m'.NoWorse m) :
    (Completion.of m p satdBaseline).overall ≤ (Completion.of m' p satdBaseline).overall := by
  have hlint : (Completion.of m p satdBaseline).lint ≤ (Completion.of m' p satdBaseline).lint := by
    refine wholeOr_mono (fun hwhole => ?_) (h.totalFiles ▸ shareWithout_mono hm'.totalFiles h.filesWithIssues) (clampPercent_mem _).2
    rcases Bool.or_eq_true_iff.mp hwhole with hnone | hempty
    · have hzero : m.totalViolations = 0 := by simpa [whole_real] using of_decide_eq_true hnone
      have hstill : m'.totalViolations = 0 := le_antisymm (hzero ▸ h.totalViolations) hm'.totalViolations
      rw [hstill, Bool.or_eq_true_iff]
      exact .inl (decide_eq_true (by simp [whole_real]))
    · rw [h.totalFiles, hempty, Bool.or_true]
  have hcomplexity : (Completion.of m p satdBaseline).complexity ≤ (Completion.of m' p satdBaseline).complexity := by
    refine wholeOr_mono (fun hwhole => ?_) (h.totalFunctions ▸ shareWithout_mono hm'.totalFunctions h.functionsWithHighComplexity)
      (clampPercent_mem _).2
    rcases Bool.or_eq_true_iff.mp hwhole with hlow | hempty
    · have hle : m.maxComplexity ≤ p.complexityMax := by simpa [atMost, less, equal, le_iff_lt_or_eq] using hlow
      have hstill : atMost m'.maxComplexity p.complexityMax = true := by
        simpa [atMost, less, equal, ← le_iff_lt_or_eq] using h.maxComplexity.trans hle
      rw [hstill, Bool.true_or]
    · rw [h.totalFunctions, hempty, Bool.or_true]
  have hsatd : (Completion.of m p satdBaseline).satd ≤ (Completion.of m' p satdBaseline).satd := by
    refine wholeOr_mono (fun hwhole => ?_) (shareWithout_larger_mono hbaseline h.satdCount) (clampPercent_mem _).2
    have hzero : max satdBaseline m.satdCount = 0 := (of_decide_eq_true hwhole).trans ((whole_real 0).trans Int.cast_zero)
    have hmost : max satdBaseline m'.satdCount = 0 :=
      le_antisymm (hzero ▸ max_le_max_left satdBaseline h.satdCount) (hbaseline.trans (le_max_left _ _))
    exact decide_eq_true (hmost.trans (Int.cast_zero.symm.trans (whole_real 0).symm))
  have hcoverage : (Completion.of m p satdBaseline).coverage ≤ (Completion.of m' p satdBaseline).coverage :=
    clampPercent_mono h.coveragePercent
  rw [overall_eq, overall_eq]
  linarith

/-- The percentages that progress shows are between 0 and 100, no division by zero goes into them or into the minutes that remain, and
the whole does not fall when nothing gets worse. -/
theorem bounded_and_monotone (p : ProfileOf ℝ) {satdBaseline : ℝ} (hbaseline : 0 ≤ satdBaseline) :
    (∀ m : MetricsOf ℝ, m.Counted →
      (∀ x ∈ (Completion.of m p satdBaseline).rounded.percentages, 0 ≤ x ∧ x ≤ 100) ∧
      (Completion.of (m.map some) (p.map some) (some satdBaseline)).rounded = (Completion.of m p satdBaseline).rounded.map some ∧
      ∀ elapsed : ℝ, remainingMinutes (some elapsed) (Completion.of (m.map some) (p.map some) (some satdBaseline)).overall =
        some (remainingMinutes elapsed (Completion.of m p satdBaseline).overall)) ∧
    ∀ m m' : MetricsOf ℝ, m.Counted → m'.Counted → m'.NoWorse m →
      (Completion.of m p satdBaseline).rounded.overall ≤ (Completion.of m' p satdBaseline).rounded.overall := by
  refine ⟨fun m _ => ⟨?_, ?_, fun elapsed => ?_⟩, fun m m' _ hm' h => round1_mono (overall_mono hbaseline hm' h)⟩
  · intro x hx
    have hrounded : (Completion.of m p satdBaseline).rounded.percentages = (Completion.of m p satdBaseline).percentages.map round1 := rfl
    obtain ⟨y, hy, rfl⟩ := List.mem_map.mp (hrounded ▸ hx)
    exact round1_mem (mem_percentages y hy)
  · rw [of_some, rounded_some]
  · rw [of_some]
    exact remainingMinutes_some elapsed _

/-- More files with issues than files, and more debt than before, then less, then none. -/
theorem inconsistentMetrics_bounded :
    let p : ProfileOf ℝ := ⟨80, 10, 5, 0⟩
    let before : MetricsOf ℝ := ⟨5, 12, 10, -3, 12, 30, 20, 6⟩
    let between : MetricsOf ℝ := ⟨2, 4, 10, 457 / 10, 11, 5, 20, 2⟩
    let after : MetricsOf ℝ := ⟨0, 0, 10, 250, 10, 0, 20, 0⟩
    (0 : ℝ) ≤ 3 ∧ before.Counted ∧ after.Counted ∧ after.NoWorse before ∧
      (∀ x ∈ (Completion.of before p 3).rounded.percentages, 0 ≤ x ∧ x ≤ 100) ∧
      (Completion.of (before.map some) (p.map some) (some 3)).rounded = (Completion.of before p 3).rounded.map some ∧
      (Completion.of before p 3).rounded.overall ≤ (Completion.of after p 3).rounded.overall ∧
      (Completion.of before p 3).rounded.percentages = [0, 0, 0, 0, 0] ∧
      (Completion.of between p 3).rounded.percentages = [563 / 10, 60, 75, 333 / 10, 457 / 10] ∧
      (Completion.of after p 3).rounded.percentages = [100, 100, 100, 100, 100] := by
  intro p before between after
  have hbaseline : (0 : ℝ) ≤ 3 := by norm_num
  have hbefore : before.Counted := by constructor <;> norm_num [before]
  have hafter : after.Counted := by constructor <;> norm_num [after]
  have hbetter : after.NoWorse before := by constructor <;> norm_num [before, after]
  obtain ⟨hbounded, hmono⟩ := bounded_and_monotone p hbaseline
  obtain ⟨hpercent, hdefined, -⟩ := hbounded before hbefore
  refine ⟨hbaseline, hbefore, hafter, hbetter, hpercent, hdefined, hmono before after hbefore hafter hbetter, ?_, ?_, ?_⟩
  all_goals
    norm_num [percentages, rounded, Completion.of, before, between, after, p, equal, atMost, less, undefined, larger, constant, whole_real,
      shareWithout, clampPercent_real, round1_real]

end Completion

end QualityGate
