import QualityGate.DebtScore
import QualityGate.Proofs.RoundingOrder

/-!
# The band of a debt that is shown

A score is shown rounded to three places, and its band is that of the score before rounding. The two agree unless the score is just
below a threshold and is shown as the threshold (`DebtScore.band_eq_iff`). Rounding keeps the order of scores, so those that are shown
as a threshold or more start at one floating-point number for each threshold (`DebtBand.Opens`).
-/

namespace QualityGate

open Number (IsRounded)

namespace DebtBand

/-- The least score that is shown as a threshold, and the threshold. -/
def openings : List (Number × Number) := [(0.4995, 0.5), (0.9994999999999999, 1), (1.9995, 2)]

/-- Whether a threshold is reached by just the scores from the least one on, once they are rounded. -/
def Opens (least threshold : Number) : Prop :=
  ∀ x : Number, x.IsRounded → threshold.le (x.roundScaled 3) = least.le x

/-- It is enough to look at the least score and the number before it. -/
theorem opens_of_neighbours {threshold : Number} {m : Nat} {e : Int} (hm : 2 ^ 52 < m) (hthreshold : threshold.isNan = false)
    (hleast : threshold.le ((Number.finite (m * 2 ^ e)).roundScaled 3) = true)
    (hbefore : ((Number.finite (((m - 1 : Nat) : Rat) * 2 ^ e)).roundScaled 3).lt threshold = true) :
    Opens (.finite (m * 2 ^ e)) threshold := by
  intro x hx
  have hplaces : power 10 3 ≤ 2 ^ 53 := by decide
  rw [Bool.eq_iff_iff]
  constructor
  · intro hreached
    have hnan : x.isNan = false := by
      cases x with
      | nan => exact absurd hreached (by cases threshold <;> exact Bool.false_ne_true)
      | finite | infinite => rfl
    by_contra hlower
    rw [Number.le_eq_not_lt rfl hnan, Bool.not_eq_true', Bool.not_eq_false] at hlower
    have hround := Number.le_roundScaled hplaces (hx.le_of_lt hm hlower)
    have hshown := Number.isNan_of_le_left hround
    have hnumber := Number.isNan_of_le_right hround
    have hbetween := ((Number.le_iff_place hthreshold hshown).mp hreached).trans ((Number.le_iff_place hshown hnumber).mp hround)
    exact hbetween.not_gt ((Number.lt_iff_place hnumber hthreshold).mp hbefore)
  · intro hlow
    have hround := Number.le_roundScaled hplaces hlow
    have hshown := Number.isNan_of_le_left hround
    have hnumber := Number.isNan_of_le_right hround
    rw [Number.le_iff_place hthreshold hnumber]
    exact ((Number.le_iff_place hthreshold hshown).mp hleast).trans ((Number.le_iff_place hshown hnumber).mp hround)

theorem opens : ∀ opening ∈ openings, Opens opening.1 opening.2 := by
  have hhalf : (0.4995 : Number) = .finite ((8998192055486251 : Nat) * 2 ^ (-54 : Int)) := by decide +kernel
  have hone : (0.9994999999999999 : Number) = .finite ((9002695655113621 : Nat) * 2 ^ (-53 : Int)) := by decide +kernel
  have htwo : (1.9995 : Number) = .finite ((9004947454927307 : Nat) * 2 ^ (-52 : Int)) := by decide +kernel
  simp only [openings, List.forall_mem_cons, hhalf, hone, htwo]
  refine ⟨opens_of_neighbours (by decide) ?_ ?_ ?_, opens_of_neighbours (by decide) ?_ ?_ ?_,
    opens_of_neighbours (by decide) ?_ ?_ ?_, List.forall_mem_nil _⟩
  all_goals decide +kernel

/-- Whether a score is below a threshold and is shown as the threshold. -/
def RoundsUp (score : Number) : Prop := ∃ opening ∈ openings, opening.1.le score = true ∧ score.lt opening.2 = true

instance (score : Number) : Decidable (RoundsUp score) := inferInstanceAs (Decidable (∃ opening ∈ openings, _))

theorem le_of_le {a b x : Number} (hab : a.le b = true) (hbx : b.le x = true) : a.le x = true := by
  have ha := Number.isNan_of_le_left hab
  have hb := Number.isNan_of_le_left hbx
  have hx := Number.isNan_of_le_right hbx
  rw [Number.le_iff_place ha hx]
  exact ((Number.le_iff_place ha hb).mp hab).trans ((Number.le_iff_place hb hx).mp hbx)

/-- The band tells which thresholds are reached. -/
theorem of_eq_iff {x y : Number} : of x = of y ↔ ∀ opening ∈ openings, opening.2.le x = opening.2.le y := by
  have hcritical : ∀ z : Number, Number.le 2 z = decide (of z = critical) := by
    intro z
    unfold of
    split_ifs with htwo hone hhalf <;> simp_all
  have hrefactor : ∀ z : Number, Number.le 1 z = decide (of z = critical ∨ of z = refactor) := by
    intro z
    have hbelow := @le_of_le 1 2 z (by decide +kernel)
    unfold of
    split_ifs with htwo hone hhalf <;> simp_all
  have hmonitor : ∀ z : Number, Number.le 0.5 z = decide (of z ≠ healthy) := by
    intro z
    have hone' := @le_of_le 0.5 1 z (by decide +kernel)
    have htwo' := @le_of_le 0.5 2 z (by decide +kernel)
    unfold of
    split_ifs with htwo hone hhalf <;> simp_all
  constructor
  · intro h
    simp [openings, hmonitor, hrefactor, hcritical, h]
  · intro h
    obtain ⟨hhalf, hone, htwo, -⟩ : Number.le 0.5 x = Number.le 0.5 y ∧ Number.le 1 x = Number.le 1 y ∧
        Number.le 2 x = Number.le 2 y ∧ True := by simpa [openings] using h
    unfold of
    rw [hhalf, hone, htwo]

end DebtBand

namespace DebtScore

/-- The band of a file's debt is that of the score that is shown, exactly when the score is not rounded up to a threshold. -/
theorem band_eq_iff (input : DebtInput) :
    (of input).band = DebtBand.of (of input).value ↔ ¬DebtBand.RoundsUp (exactValue (componentsOf input)) := by
  have hrounded : (exactValue (componentsOf input)).IsRounded := Number.isRounded_div _ _
  unfold of
  dsimp only
  generalize exactValue (componentsOf input) = x at hrounded
  have hstarts : ∀ opening ∈ DebtBand.openings, opening.1.le opening.2 = true := by decide +kernel
  unfold DebtBand.RoundsUp
  rw [DebtBand.of_eq_iff, not_exists]
  refine forall_congr' fun opening => ?_
  rw [not_and]
  refine forall_congr' fun hmem => ?_
  rw [DebtBand.opens opening hmem x hrounded, not_and, Bool.not_eq_true]
  have hreached := @DebtBand.le_of_le _ _ x (hstarts opening hmem)
  cases hlow : opening.1.le x with
  | false =>
    cases hle : opening.2.le x with
    | false => exact iff_of_true rfl nofun
    | true => exact absurd (hreached hle) (by rw [hlow]; exact Bool.false_ne_true)
  | true =>
    have hx := Number.isNan_of_le_right hlow
    have hthreshold := Number.isNan_of_le_right (hstarts opening hmem)
    rw [Number.le_eq_not_lt hthreshold hx]
    cases x.lt opening.2 <;> simp

/-- A file of 1001 lines whose functions have a complexity of 50 in all is shown as healthy beside the score 0.5. -/
theorem fiftyInThousandLines_contradicts :
    let score := of ⟨"src/lib.rs", [50], 1001, 0, []⟩
    score.value = 0.5 ∧ score.band = .healthy ∧ DebtBand.of score.value = .monitor := by
  decide +kernel

end DebtScore

end QualityGate
