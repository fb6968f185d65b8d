import QualityGate.Proofs.StateFile

/-!
# The figures of progress

Sound metrics show sound progress (`Progress.sound_of_computeProgress`): percentages are held between 0 and 100, so that all figures
that are computed from them have few bits, and the minutes that remain are finite when the seconds that have passed are. When those are
no number, neither are the minutes (`remainingMinutes_nan`).
-/

namespace QualityGate

open Number (Bounded Representable)
open Arithmetic

theorem bounded_shareOr {c : Bool} (part total : Number) : Bounded 7 (if c then whole 100 else shareWithout part total) := by
  split
  · exact Number.bounded_whole (by decide) (by decide)
  · exact Number.bounded_clampPercent _

/-- The percentages of a completion have few bits, whatever the metrics. -/
theorem Completion.bounded (m : Metrics) (p : Profile) (satdBaseline : Number) :
    let c := Completion.of m p satdBaseline
    Bounded 7 c.lint ∧ Bounded 7 c.complexity ∧ Bounded 7 c.satd ∧ Bounded 7 c.coverage ∧ Bounded 10 c.overall := by
  have hlint := @bounded_shareOr (equal m.totalViolations (whole 0) || equal m.totalFiles (whole 0)) m.filesWithIssues m.totalFiles
  have hcomplexity := @bounded_shareOr (atMost m.maxComplexity p.complexityMax || equal m.totalFunctions (whole 0))
    m.functionsWithHighComplexity m.totalFunctions
  have hsatd := @bounded_shareOr (equal (larger satdBaseline m.satdCount) (whole 0)) m.satdCount (larger satdBaseline m.satdCount)
  have hcoverage := Number.bounded_clampPercent m.coveragePercent
  have hweight : ∀ k : Int, 0 ≤ k → k ≤ 10 → Bounded 0 (constant k 1 : Number) := by
    intro k hnonneg hle
    refine Number.bounded_ofRat (by decide) ?_
    have hpower : power 10 1 = 10 := rfl
    have hlow : (0 : Rat) ≤ k := by exact_mod_cast hnonneg
    have hhigh : (k : Rat) ≤ 10 := by exact_mod_cast hle
    rw [hpower, Rat.mkRat_eq_div, abs_of_nonneg (div_nonneg hlow (by norm_num)), pow_zero]
    exact (div_le_one (by norm_num)).mpr (by exact_mod_cast hhigh)
  have hthree := hweight 3 (by decide) (by decide)
  have htwo := hweight 2 (by decide) (by decide)
  refine ⟨hlint, hcomplexity, hsatd, hcoverage, ?_⟩
  exact ((((hthree.mul hlint (by decide)).add (hthree.mul hcomplexity (by decide)) (by decide)).add
    ((htwo.mul hsatd (by decide)).mono (by decide)) (by decide)).add ((htwo.mul hcoverage (by decide)).mono (by decide)) (by decide))

theorem representable_thirtysecond : Representable (1 / 32) := by
  refine Number.representable_iff.mpr ⟨⟨1, -5, by decide, by decide, ?_⟩, ?_⟩
  · rw [abs_of_pos (by norm_num)]
    norm_num
  · rw [abs_of_pos (by norm_num)]
    have hlimit : (2 : Rat) ^ 1 < Number.limit := by exact_mod_cast @Number.pow_lt_limit 1 (by decide)
    linarith

/-- More than 5% is no small share. -/
theorem exists_share {overall : Number} (h : Bounded 10 overall) (hless : less (whole 5) overall = true) :
    ∃ c, overall / whole 100 = .finite c ∧ 1 ≤ c * 2 ^ 5 := by
  have hfive : (whole 5 : Number) = .finite 5 := Number.whole_eq (by decide)
  have hhundred : (whole 100 : Number) = .finite 100 := Number.whole_eq (by decide)
  obtain ⟨q, rfl, hq⟩ := h
  rw [hfive] at hless
  have hlow : (5 : Rat) < q := of_decide_eq_true hless
  have hfinite : Bounded 10 (Number.ofRat (q / 100)) := by
    refine Number.bounded_ofRat (by decide) ?_
    rw [abs_div, abs_of_pos (show (0 : Rat) < 100 by norm_num)]
    exact (div_le_self (abs_nonneg q) (by norm_num)).trans hq
  obtain ⟨c, hc, -⟩ := hfinite
  have hge : 1 / 32 ≤ c := Number.le_of_ofRat representable_thirtysecond (by norm_num) (by linarith) hc
  exact ⟨c, by rw [hhundred, Number.finite_div q (by norm_num), hc], by linarith⟩

/-- The pace of the work so far tells of finitely many minutes, as long as finitely many seconds have passed. -/
theorem bounded_remainingMinutes {elapsed overall : Number} (helapsed : Bounded 54 elapsed) (hoverall : Bounded 10 overall) :
    (remainingMinutes elapsed overall).IsAmount := by
  have hzero : Bounded 54 (whole 0) := Number.bounded_whole (by decide) (by decide)
  have htwenty : Bounded 5 (whole 20) := Number.bounded_whole (by decide) (by decide)
  have hsixty : (whole 60 : Number) = .finite 60 := Number.whole_eq (by decide)
  have hlarger := hzero.max helapsed
  have htotal : Bounded 59 (if less (whole 5) overall then larger (whole 0) elapsed / (overall / whole 100)
      else larger (whole 0) elapsed * whole 20) := by
    split
    · rename_i hless
      obtain ⟨c, hc, hlow⟩ := exists_share hoverall hless
      rw [hc]
      exact hlarger.div hlow (by decide)
    · exact hlarger.mul htwenty (by decide)
  have hleft := htotal.sub (hlarger.mono (by decide)) (by decide)
  have hminutes := @Bounded.div _ 0 _ hleft 60 (by norm_num) (by decide)
  rw [← hsixty] at hminutes
  exact ((hzero.mono (by decide)).max hminutes).isAmount_round1 (by decide)

/-- What is no number of seconds tells of no number of minutes. -/
theorem remainingMinutes_nan (overall : Number) : remainingMinutes .nan overall = .nan := by
  have hdiv : ∀ x : Number, .nan / x = .nan := fun x => by cases x <;> rfl
  have htotal : (if less (whole 5) overall then (.nan : Number) / (overall / whole 100) else .nan * whole 20) = .nan := by
    split
    · exact hdiv _
    · rfl
  have hlarger : larger (whole 0) .nan = (.nan : Number) := rfl
  unfold remainingMinutes
  dsimp only
  rw [hlarger, htotal]
  rfl

/-- The progress that sound metrics show is sound. -/
theorem Progress.sound_of_computeProgress {input : ProgressInput} (hmetrics : input.metrics.Sound) (hfiles : input.filesCompleted.IsCount)
    (helapsed : Bounded 54 input.elapsedSeconds) : (computeProgress input).Sound := by
  obtain ⟨hlint, hcomplexity, hsatd, hcoverage, hoverall⟩ := Completion.bounded input.metrics input.profile input.satdBaseline
  have htotal : input.metrics.totalFiles.IsCount := hmetrics.counts _ (by simp [Metrics.counts])
  refine ⟨?_, ?_⟩
  · simp only [amounts, List.forall_mem_cons]
    exact ⟨hoverall.isAmount_round1 (by decide), hlint.isAmount_round1 (by decide), hcomplexity.isAmount_round1 (by decide),
      hsatd.isAmount_round1 (by decide), hcoverage.isAmount_round1 (by decide), bounded_remainingMinutes helapsed hoverall,
      List.forall_mem_nil _⟩
  · simp only [Progress.counts, List.forall_mem_cons]
    exact ⟨hfiles, htotal.max_sub hfiles, List.forall_mem_nil _⟩

/-- All figures that are computed are rounded as they are, also where they are no number. -/
theorem Progress.rounded_of_computeProgress {input : ProgressInput} (htotal : input.metrics.totalFiles.IsCount)
    (hfiles : input.filesCompleted.IsCount) : (encode (computeProgress input)).Rounded := by
  have hround : ∀ x : Number, (round1 x).IsRounded := fun x => Number.isRounded_div _ _
  refine Progress.rounded ?_ ?_
  · simp only [amounts, List.forall_mem_cons]
    exact ⟨hround _, hround _, hround _, hround _, hround _, hround _, List.forall_mem_nil _⟩
  · simp only [Progress.counts, List.forall_mem_cons]
    exact ⟨hfiles, htotal.max_sub hfiles, List.forall_mem_nil _⟩

end QualityGate
