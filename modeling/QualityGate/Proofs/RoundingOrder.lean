import QualityGate.Number.Decimal
import QualityGate.Proofs.Magnitudes
import QualityGate.Proofs.Orders

/-!
# Rounding and the order of numbers

Rounding keeps the order of values (`place_ofRat_mono`), and so does every operation that is exact but for one rounding
(`Number.Ascends`), such as rounding to a count of places. Between a floating-point number and the one below it there is no other.
-/

namespace QualityGate.Number

/-! ## Comparing places -/

/-- What comes out of rounding is a number. -/
theorem isNan_ofRat (q : Rat) : (ofRat q).isNan = false := by
  unfold ofRat
  split <;> rfl

/-- A number is at most another when it does not stand behind it. -/
theorem le_iff_place {a b : Number} (ha : a.isNan = false) (hb : b.isNan = false) : a.le b = true ↔ a.place ≤ b.place := by
  have hsame : a.same b = true ↔ a.place = b.place := by
    rw [same_eq_order_isEq ha hb, order_eq_compare ha hb, Ordering.isEq_iff_eq_eq, compare_eq_iff_eq]
  rw [le, Bool.or_eq_true, lt_iff_place ha hb, hsame, le_iff_lt_or_eq]

/-- What is at most something is a number. -/
theorem isNan_of_le_left {a b : Number} (h : a.le b = true) : a.isNan = false := by
  cases a with
  | nan => cases b <;> cases h
  | finite | infinite => rfl

theorem place_finite_le {a b : Rat} : (finite a).place ≤ (finite b).place ↔ a ≤ b := by
  rw [← le_iff_place rfl rfl, le_finite, decide_eq_true_iff]

/-- Of two numbers that compare, one is up to the other or below it. -/
theorem le_eq_not_lt {a b : Number} (ha : a.isNan = false) (hb : b.isNan = false) : a.le b = !b.lt a := by
  rw [Bool.eq_iff_iff, Bool.not_eq_true', ← Bool.not_eq_true, le_iff_place ha hb, lt_iff_place hb ha, not_lt]

/-- What is the same as something is a number. -/
theorem isNan_of_same_left {a b : Number} (h : a.same b = true) : a.isNan = false := by
  cases a with
  | nan => cases b <;> cases h
  | finite | infinite => rfl

/-- A number is not the same as a greater one. -/
theorem same_eq_false_of_lt {a b : Number} (h : a.lt b = true) : a.same b = false := by
  rw [same_eq_order_isEq (isNan_of_lt_left h) (isNan_of_lt_right h), order, if_pos h]
  rfl

/-! ## Rounding keeps the order -/

/-- A larger magnitude has no smaller spacing, and with the same spacing no smaller mantissa. -/
theorem Rounds.mono {x y : Rat} {e f : Int} {m n : Nat} (hx : Rounds x e m) (hy : Rounds y f n) (h : x < y) :
    (m : Rat) * 2 ^ e ≤ n * 2 ^ f := by
  have htwo : (1 : Rat) ≤ 2 := by norm_num
  rcases lt_trichotomy e f with hlt | rfl | hgt
  · -- The larger magnitude is above a power of two that the smaller one is below.
    have hgrid : OnGrid ((2 : Rat) ^ (f + 52)) := by
      refine ⟨2 ^ 52, f, by decide, hy.least, ?_⟩
      rw [add_comm, zpow_add₀ (by norm_num)]
      norm_cast
    have htop : x ≤ 2 ^ (f + 52) := hx.below.le.trans (zpow_le_zpow_right₀ htwo (by omega))
    have hbottom : (2 : Rat) ^ (f + 52) ≤ y := hy.above.resolve_left (by have := hx.least; omega)
    exact (hx.le hgrid htop).trans (hy.ge hgrid hbottom)
  · have hpos : (0 : Rat) < 2 ^ e := by positivity
    have hscaled : x / 2 ^ e < y / 2 ^ e := div_lt_div_of_pos_right h hpos
    have hxnear := (abs_le.mp hx.near).2
    have hynear := (abs_le.mp hy.near).1
    have hlt : (m : Rat) < ((n + 1 : Nat) : Rat) := by
      push_cast
      linarith
    have hle : m ≤ n := Nat.lt_succ_iff.mp (by exact_mod_cast hlt)
    exact mul_le_mul_of_nonneg_right (by exact_mod_cast hle) hpos.le
  · have hbottom : (2 : Rat) ^ (e + 52) ≤ x := hx.above.resolve_left (by have := hy.least; omega)
    have htop : y < 2 ^ (e + 52) := hy.below.trans_le (zpow_le_zpow_right₀ htwo (by omega))
    linarith

/-- Rounding keeps the order of positive numbers. -/
theorem place_ofRat_of_pos {a b : Rat} (ha : 0 < a) (h : a ≤ b) : (ofRat a).place ≤ (ofRat b).place := by
  rcases h.eq_or_lt with rfl | hlt
  · exact le_rfl
  have hb : 0 < b := ha.trans hlt
  obtain ⟨e, m, hroundsA, hofA⟩ := exists_rounds ha.ne'
  obtain ⟨f, n, hroundsB, hofB⟩ := exists_rounds hb.ne'
  rw [abs_of_pos ha] at hroundsA
  rw [abs_of_pos hb] at hroundsB
  have hmono := hroundsA.mono hroundsB hlt
  rw [hofA, hofB, if_neg ha.not_gt, if_neg hb.not_gt]
  by_cases hlarge : (limit : Rat) ≤ n * 2 ^ f
  · rw [if_pos hlarge, decide_eq_false hb.not_gt]
    split
    · rw [decide_eq_false ha.not_gt]
    · exact WithBot.coe_le_coe.mpr le_top
  · rw [if_neg hlarge, if_neg fun h => hlarge (h.trans hmono)]
    exact place_finite_le.mpr hmono

/-- What is not negative is not rounded below zero. -/
theorem zero_le_place_ofRat {q : Rat} (h : 0 ≤ q) : (finite 0).place ≤ (ofRat q).place := by
  rcases h.eq_or_lt with rfl | hpos
  · exact le_rfl
  obtain ⟨e, m, -, hof⟩ := exists_rounds hpos.ne'
  rw [hof, if_neg hpos.not_gt, decide_eq_false hpos.not_gt]
  split
  · exact WithBot.coe_le_coe.mpr le_top
  · exact place_finite_le.mpr (by positivity)

/-- Opposites stand in the opposite order. -/
theorem place_neg_le {a b : Number} (ha : a.isNan = false) (hb : b.isNan = false) (h : a.place ≤ b.place) :
    b.neg.place ≤ a.neg.place := by
  cases a with
  | nan => cases ha
  | finite x =>
    cases b with
    | nan => cases hb
    | finite y => exact place_finite_le.mpr (neg_le_neg (place_finite_le.mp h))
    | infinite negative =>
      cases negative with
      | false => exact bot_le
      | true => exact absurd h (by simp [place])
  | infinite negative =>
    cases negative with
    | true =>
      cases b with
      | nan => cases hb
      | finite y => exact WithBot.coe_le_coe.mpr le_top
      | infinite other => cases other <;> simp [place, neg]
    | false =>
      cases b with
      | nan => cases hb
      | finite y => exact absurd h (by simp [place])
      | infinite other =>
        cases other with
        | false => exact le_rfl
        | true => exact absurd h (by simp [place])

/-- Rounding keeps the order of values. -/
theorem place_ofRat_mono {a b : Rat} (h : a ≤ b) : (ofRat a).place ≤ (ofRat b).place := by
  have hneg : ∀ q : Rat, (ofRat q) = (ofRat (-q)).neg := fun q => by rw [← ofRat_neg, neg_neg]
  rcases lt_or_ge 0 a with ha | ha
  · exact place_ofRat_of_pos ha h
  have hbelow : (ofRat a).place ≤ (finite 0).place := by
    rw [hneg a]
    exact place_neg_le rfl (isNan_ofRat _) (zero_le_place_ofRat (by linarith))
  rcases lt_or_ge b 0 with hb | hb
  · rw [hneg a, hneg b]
    exact place_neg_le (isNan_ofRat _) (isNan_ofRat _) (place_ofRat_of_pos (by linarith) (by linarith))
  · exact hbelow.trans (zero_le_place_ofRat hb)

/-! ## Operations that keep the order -/

/-- Whether an operation leaves the infinities and is an ascending function of finite numbers, rounded once. -/
structure Ascends (f : Number → Number) (exact : Rat → Rat) : Prop where
  finite : ∀ q, f (.finite q) = ofRat (exact q)
  infinite : ∀ negative, f (.infinite negative) = .infinite negative
  nan : f .nan = .nan
  mono : Monotone exact

namespace Ascends

variable {f : Number → Number} {exact : Rat → Rat} {x y : Number}

/-- An ascending operation makes a number of a number. -/
theorem isNan (h : Ascends f exact) : (f x).isNan = x.isNan := by
  cases x with
  | nan => rw [h.nan]
  | finite q => rw [h.finite, isNan_ofRat]; rfl
  | infinite negative => rw [h.infinite]

/-- An ascending operation keeps the order. -/
theorem place_mono (h : Ascends f exact) (hx : x.isNan = false) (hy : y.isNan = false) (hle : x.place ≤ y.place) :
    (f x).place ≤ (f y).place := by
  cases x with
  | nan => cases hx
  | finite a =>
    cases y with
    | nan => cases hy
    | finite b =>
      rw [h.finite, h.finite]
      exact place_ofRat_mono (h.mono (place_finite_le.mp hle))
    | infinite negative =>
      cases negative with
      | true => exact absurd hle (by simp [place])
      | false =>
        rw [h.infinite]
        exact le_top
  | infinite negative =>
    cases negative with
    | true =>
      rw [h.infinite]
      exact bot_le
    | false =>
      cases y with
      | nan => cases hy
      | finite b => exact absurd hle (by simp [place])
      | infinite other =>
        cases other with
        | false => exact le_rfl
        | true => exact absurd hle (by simp [place])

end Ascends

variable {c : Rat}

/-- The multiplication by a positive number ascends. -/
theorem ascends_mul (h : 0 < c) : Ascends (· * .finite c) (· * c) where
  finite _ := rfl
  infinite negative := by
    show (if c = 0 then Number.nan else .infinite (negative != decide (c < 0))) = _
    rw [if_neg h.ne', decide_eq_false h.not_gt, Bool.bne_false]
  nan := rfl
  mono _ _ hle := mul_le_mul_of_nonneg_right hle h.le

/-- The division by a positive number ascends. -/
theorem ascends_div (h : 0 < c) : Ascends (· / .finite c) (· / c) where
  finite q := finite_div q h.ne'
  infinite negative := by
    show Number.infinite (negative != decide (c < 0)) = _
    rw [decide_eq_false h.not_gt, Bool.bne_false]
  nan := rfl
  mono _ _ hle := div_le_div_of_nonneg_right hle h.le

/-- Rounding to whole numbers ascends. -/
theorem ascends_round : Ascends round fun q => ((q + 1 / 2).floor : Int) where
  finite _ := rfl
  infinite _ := rfl
  nan := rfl
  mono _ _ hle := Int.cast_le.mpr (Rat.floor_monotone (add_le_add_left hle (1 / 2)))

/-- Rounding to a count of places keeps the order of numbers. -/
theorem le_roundScaled {x y : Number} {places : Nat} (hplaces : power 10 places ≤ 2 ^ 53) (h : x.le y = true) :
    (x.roundScaled places).le (y.roundScaled places) = true := by
  have hx := isNan_of_le_left h
  have hy := isNan_of_le_right h
  have hpos : (0 : Rat) < (power 10 places : Nat) := by exact_mod_cast power_pos (by decide) places
  have hfactor : ofNat (power 10 places) = .finite (power 10 places : Nat) := ofNat_eq hplaces
  have hmul := @ascends_mul (power 10 places : Nat) hpos
  have hdiv := @ascends_div (power 10 places : Nat) hpos
  have hproduct := hmul.place_mono hx hy ((le_iff_place hx hy).mp h)
  have hround := ascends_round.place_mono (hmul.isNan.trans hx) (hmul.isNan.trans hy) hproduct
  have hxRound : (round (x * .finite (power 10 places : Nat))).isNan = false := ascends_round.isNan.trans (hmul.isNan.trans hx)
  have hyRound : (round (y * .finite (power 10 places : Nat))).isNan = false := ascends_round.isNan.trans (hmul.isNan.trans hy)
  unfold roundScaled
  rw [hfactor]
  exact (le_iff_place (hdiv.isNan.trans hxRound) (hdiv.isNan.trans hyRound)).mpr (hdiv.place_mono hxRound hyRound hround)

/-! ## Neighbours -/

/-- Below a floating-point number with a full mantissa, the next one has the mantissa before it. -/
theorem OnGrid.le_of_lt {q : Rat} {m : Nat} {e : Int} (h : OnGrid q) (hm : 2 ^ 52 < m) (hlt : q < m * 2 ^ e) :
    q ≤ ((m - 1 : Nat) : Rat) * 2 ^ e := by
  obtain ⟨n, f, hn, -, rfl⟩ := h
  have hpos : (0 : Rat) < 2 ^ e := by positivity
  rcases le_or_gt e f with hle | hgt
  · obtain ⟨k, hk⟩ := exists_mul_zpow (m := n) hle
    rw [hk] at hlt ⊢
    have hkm : k < m := by exact_mod_cast lt_of_mul_lt_mul_right hlt hpos.le
    have hpred : k ≤ m - 1 := by omega
    exact mul_le_mul_of_nonneg_right (by exact_mod_cast hpred) hpos.le
  · have hfull : 2 ^ 52 ≤ m - 1 := by omega
    calc (n : Rat) * 2 ^ f ≤ 2 ^ 53 * 2 ^ (e - 1) :=
          mul_le_mul (by exact_mod_cast hn) (zpow_le_zpow_right₀ (by norm_num) (by omega)) (by positivity) (by positivity)
      _ = ((2 ^ 52 : Nat) : Rat) * 2 ^ e := by
          rw [zpow_sub₀ (by norm_num)]
          push_cast
          ring
      _ ≤ ((m - 1 : Nat) : Rat) * 2 ^ e := mul_le_mul_of_nonneg_right (by exact_mod_cast hfull) hpos.le

/-- The number before one with a full mantissa is the greatest one below it. -/
theorem IsRounded.le_of_lt {x : Number} {m : Nat} {e : Int} (h : x.IsRounded) (hm : 2 ^ 52 < m)
    (hlt : x.lt (.finite (m * 2 ^ e)) = true) : x.le (.finite (((m - 1 : Nat) : Rat) * 2 ^ e)) = true := by
  cases x with
  | nan => cases hlt
  | infinite negative =>
    obtain rfl : negative = true := hlt
    rfl
  | finite q =>
    have hq : q < m * 2 ^ e := of_decide_eq_true hlt
    rw [le_finite, decide_eq_true_iff]
    rcases le_or_gt 0 q with hnonneg | hneg
    · have hgrid := (representable_iff.mp (h q rfl)).1
      rw [abs_of_nonneg hnonneg] at hgrid
      exact hgrid.le_of_lt hm hq
    · exact hneg.le.trans (by positivity)

end QualityGate.Number
