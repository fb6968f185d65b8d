import Mathlib.Tactic.Positivity
import QualityGate.Number.Arithmetic
import QualityGate.Proofs.Rounding

/-!
# Counts and bounded numbers

What operations leave of a number about its magnitude: a number of a few bits stays one of a few bits, so that it does not become
infinite, and the counts that a program keeps stay counts.
-/

namespace QualityGate.Number

open Arithmetic (whole round1 clampPercent)

/-! ## Bounded numbers -/

/-- A finite number of a magnitude up to a power of two. -/
def Bounded (bits : Nat) (x : Number) : Prop := ∃ q, x = .finite q ∧ |q| ≤ 2 ^ bits

variable {x y : Number} {m n : Nat}

/-- A quotient by anything but zero is the rounded one. -/
theorem finite_div (a : Rat) {b : Rat} (h : b ≠ 0) : Number.finite a / .finite b = ofRat (a / b) := if_neg h

/-- The powers of two below the largest numbers are numbers. -/
theorem representable_two_pow (h : n < 1024) : Representable (2 ^ n) := by
  have hpos : |(2 : Rat) ^ n| = 2 ^ n := abs_of_pos (by positivity)
  refine representable_iff.mpr ⟨⟨1, n, by decide, by omega, ?_⟩, ?_⟩
  · rw [hpos, Nat.cast_one, one_mul, zpow_natCast]
  · rw [hpos]
    exact_mod_cast pow_lt_limit h

/-- What is rounded stays below a power of two, which is a number itself. -/
theorem bounded_ofRat {q : Rat} (hn : n < 1024) (h : |q| ≤ 2 ^ n) : Bounded n (ofRat q) := by
  obtain ⟨v, hv, hnonneg, hle⟩ := exists_ofRat_le (abs_nonneg q) h (representable_two_pow hn)
  rcases le_or_gt 0 q with hq | hq
  · rw [abs_of_nonneg hq] at hv
    exact ⟨v, hv, by rwa [abs_of_nonneg hnonneg]⟩
  · rw [abs_of_neg hq, ofRat_neg] at hv
    refine ⟨-v, ?_, by rwa [abs_neg, abs_of_nonneg hnonneg]⟩
    cases hof : ofRat q with
    | finite r =>
      rw [hof] at hv
      rw [← finite.inj hv, neg_neg]
    | nan => rw [hof] at hv; cases hv
    | infinite negative => rw [hof] at hv; cases hv

namespace Bounded

/-- A bounded number is finite. -/
theorem isFinite (h : Bounded n x) : x.isFinite := by
  obtain ⟨q, rfl, -⟩ := h
  rfl

/-- A bound may be widened. -/
theorem mono (h : Bounded m x) (hmn : m ≤ n) : Bounded n x := by
  obtain ⟨q, hq, hle⟩ := h
  exact ⟨q, hq, hle.trans (pow_le_pow_right₀ (by norm_num) hmn)⟩

/-- The opposite of a number has its bound. -/
theorem neg (h : Bounded n x) : Bounded n x.neg := by
  obtain ⟨q, rfl, hle⟩ := h
  exact ⟨-q, rfl, by rwa [abs_neg]⟩

/-- A sum needs one bit more than its parts. -/
theorem add (hx : Bounded n x) (hy : Bounded n y) (hn : n + 1 < 1024) : Bounded (n + 1) (x + y) := by
  obtain ⟨a, rfl, ha⟩ := hx
  obtain ⟨b, rfl, hb⟩ := hy
  refine bounded_ofRat hn ((abs_add_le a b).trans ?_)
  rw [pow_succ]
  linarith

theorem sub (hx : Bounded n x) (hy : Bounded n y) (hn : n + 1 < 1024) : Bounded (n + 1) (x - y) := hx.add hy.neg hn

/-- A product has the bits of both factors. -/
theorem mul (hx : Bounded m x) (hy : Bounded n y) (hmn : m + n < 1024) : Bounded (m + n) (x * y) := by
  obtain ⟨a, rfl, ha⟩ := hx
  obtain ⟨b, rfl, hb⟩ := hy
  refine bounded_ofRat hmn ?_
  rw [abs_mul, pow_add]
  exact mul_le_mul ha hb (abs_nonneg b) (by positivity)

/-- A divisor that is not too small adds few bits. -/
theorem div (hx : Bounded n x) {c : Rat} (hc : 1 ≤ c * 2 ^ m) (hmn : n + m < 1024) : Bounded (n + m) (x / .finite c) := by
  obtain ⟨a, rfl, ha⟩ := hx
  have hpos : 0 < c := pos_of_mul_pos_left (lt_of_lt_of_le one_pos hc) (by positivity)
  rw [finite_div a hpos.ne']
  refine bounded_ofRat hmn ?_
  rw [abs_div, abs_of_pos hpos, div_le_iff₀ hpos, pow_add]
  calc |a| ≤ 2 ^ n * 1 := by rwa [mul_one]
    _ ≤ 2 ^ n * (c * 2 ^ m) := mul_le_mul_of_nonneg_left hc (by positivity)
    _ = 2 ^ n * 2 ^ m * c := by ring

/-- The larger of two numbers has their bound. -/
theorem max (hx : Bounded n x) (hy : Bounded n y) : Bounded n (Number.max x y) := by
  obtain ⟨a, rfl, ha⟩ := hx
  obtain ⟨b, rfl, hb⟩ := hy
  unfold Number.max
  dsimp only
  split
  · exact ⟨b, rfl, hb⟩
  · exact ⟨a, rfl, ha⟩

/-- A number that is rounded to a whole one needs one bit more. -/
theorem round (hx : Bounded n x) (hn : n + 1 < 1024) : Bounded (n + 1) x.round := by
  obtain ⟨q, rfl, hq⟩ := hx
  refine bounded_ofRat hn ?_
  have hle : ((q + 1 / 2).floor : Rat) ≤ q + 1 / 2 := Rat.le_floor_iff.mp le_rfl
  have hlt : q + 1 / 2 < ((q + 1 / 2).floor : Rat) + 1 := by
    by_contra hge
    have := Rat.le_floor_iff.mpr (show (((q + 1 / 2).floor + 1 : Int) : Rat) ≤ q + 1 / 2 by push_cast; exact not_lt.mp hge)
    omega
  obtain ⟨hlow, hhigh⟩ := abs_le.mp hq
  have hpow : (1 : Rat) ≤ 2 ^ n := one_le_pow₀ (by norm_num)
  rw [pow_succ]
  exact abs_le.mpr ⟨by linarith, by linarith⟩

end Bounded

/-- Whole numbers are exact up to 53 bits. -/
theorem whole_eq {k : Int} (h : k.natAbs ≤ 2 ^ 53) : (whole k : Number) = .finite k := by
  have hrat : mkRat k (power 10 0) = (k : Rat) := by rw [power_zero, Rat.mkRat_one]
  show ofRat (mkRat k (power 10 0)) = _
  rw [hrat]
  exact representable_intCast h

/-- A whole number has the bound of its value. -/
theorem bounded_whole {k : Int} (h : k.natAbs ≤ 2 ^ 53) (hn : k.natAbs ≤ 2 ^ n) : Bounded n (whole k) := by
  refine ⟨k, whole_eq h, ?_⟩
  rw [← Int.cast_abs, Int.abs_eq_natAbs, Int.cast_natCast]
  exact_mod_cast hn

/-- A number that is rounded to one decimal needs five bits more, at most. -/
theorem Bounded.round1 (hx : Bounded n x) (hn : n + 5 < 1024) : Bounded (n + 5) (round1 x) := by
  have hten : Bounded 4 (whole 10) := bounded_whole (by decide) (by decide)
  have hround : Bounded (n + 4 + 1) (Arithmetic.nearest (x * whole 10)) := (hx.mul hten (by omega)).round (by omega)
  unfold Arithmetic.round1
  rw [show (whole 10 : Number) = .finite 10 from whole_eq (by decide)] at hround ⊢
  have hdiv := @Bounded.div _ 0 _ hround 10 (by norm_num) (by omega)
  exact hdiv

/-- The larger of zero and a number is the number where that is positive. -/
theorem max_zero (q : Rat) : Number.max (.finite 0) (.finite q) = .finite (if 0 < q then q else 0) := by
  simp only [Number.max, Number.lt, decide_eq_true_eq]
  split_ifs <;> rfl

/-- A percentage that is held between 0 and 100 is no more than that, whatever it was. -/
theorem bounded_clampPercent (x : Number) : Bounded 7 (clampPercent x) := by
  have hzero : (whole 0 : Number) = .finite 0 := whole_eq (by decide)
  have hhundred : (whole 100 : Number) = .finite 100 := whole_eq (by decide)
  have hsmaller : ∀ q, Number.min (.finite 100) (.finite q) = .finite (if q < 100 then q else 100) := by
    intro q
    simp only [Number.min, Number.lt, decide_eq_true_eq]
    split_ifs <;> rfl
  have hheld : ∃ q : Rat, clampPercent x = .finite q ∧ 0 ≤ q ∧ q ≤ 100 := by
    unfold clampPercent
    rw [hzero, hhundred]
    cases x with
    | nan => exact ⟨0, rfl, by norm_num, by norm_num⟩
    | infinite negative =>
      cases negative with
      | true => exact ⟨0, rfl, by norm_num, by norm_num⟩
      | false => exact ⟨100, rfl, by norm_num, by norm_num⟩
    | finite q =>
      refine ⟨_, (congrArg (Number.min _) (max_zero q)).trans (hsmaller _), ?_, ?_⟩
      · split_ifs <;> linarith
      · split_ifs <;> linarith
  obtain ⟨q, hq, hlow, hhigh⟩ := hheld
  exact ⟨q, hq, by rw [abs_of_nonneg hlow]; linarith⟩

/-! ## Counts -/

/-- A whole number that is not negative. -/
def IsCount (x : Number) : Prop := ∃ n : Nat, x = .finite n ∧ Representable n

/-- A whole number is rounded to a whole one. -/
theorem exists_nat_of_ofRat {v : Rat} (h : ofRat (n : Rat) = .finite v) : ∃ k : Nat, v = k := by
  rcases le_or_gt n (2 ^ 53) with hsmall | hlarge
  · have hexact : Representable (n : Rat) := by exact_mod_cast @representable_intCast n (by simpa using hsmall)
    exact ⟨n, finite.inj (h.symm.trans hexact)⟩
  · have hge : (2 : Rat) ^ 53 ≤ v :=
      le_of_ofRat (representable_two_pow (by decide)) (by positivity) (by exact_mod_cast hlarge.le) h
    obtain ⟨⟨k, e, hk, -, heq⟩, -⟩ := representable_iff.mp (representable_of_ofRat h)
    rw [abs_of_nonneg ((by positivity : (0 : Rat) ≤ 2 ^ 53).trans hge)] at heq
    have he : 0 ≤ e := by
      by_contra hneg
      have hpow : (2 : Rat) ^ e < 1 := zpow_lt_one_of_neg₀ (by norm_num) (not_le.mp hneg)
      have hkq : (k : Rat) ≤ 2 ^ 53 := by exact_mod_cast hk
      have hpos : (0 : Rat) < 2 ^ e := by positivity
      nlinarith
    lift e to Nat using he
    exact ⟨k * 2 ^ e, by rw [heq]; push_cast [zpow_natCast]; ring⟩

/-- What a natural number is rounded to is a count. -/
theorem isCount_ofRat (h : (ofRat (n : Rat)).isFinite) : IsCount (ofRat (n : Rat)) := by
  cases hv : ofRat (n : Rat) with
  | finite v =>
    obtain ⟨k, rfl⟩ := exists_nat_of_ofRat hv
    exact ⟨k, rfl, representable_of_ofRat hv⟩
  | nan => rw [hv] at h; cases h
  | infinite negative => rw [hv] at h; cases h

/-- A natural number is a count, as long as it is not too large for a number. -/
theorem isCount_ofNat (h : (ofNat n).isFinite) : IsCount (ofNat n) := by
  have hcast : ofNat n = ofRat (n : Rat) := by
    unfold ofNat ofInt
    rw [Int.cast_natCast]
  rw [hcast] at h ⊢
  exact isCount_ofRat h

/-- Natural numbers are exact up to 53 bits. -/
theorem ofNat_eq (h : n ≤ 2 ^ 53) : ofNat n = .finite n := by
  have := @representable_intCast n (by simpa using h)
  rwa [Int.cast_natCast] at this

/-- Sums of natural numbers are exact up to 53 bits. -/
theorem ofNat_add (h : m + n ≤ 2 ^ 53) : ofNat m + ofNat n = ofNat (m + n) := by
  rw [ofNat_eq (by omega), ofNat_eq (by omega)]
  exact congrArg ofRat (by push_cast; rfl)

/-- Counts that are added one after the other make their sum, as far as every whole number is there. -/
theorem foldl_add_ofNat (start : Nat) (counts : List Nat) (h : start + counts.sum ≤ 2 ^ 53) :
    counts.foldl (fun sum count => sum + ofNat count) (ofNat start) = ofNat (start + counts.sum) := by
  induction counts generalizing start with
  | nil => rfl
  | cons count counts ih =>
    rw [List.sum_cons, ← Nat.add_assoc] at h ⊢
    rw [List.foldl_cons, ofNat_add (by omega)]
    exact ih _ h

theorem zero_eq : (0 : Number) = .finite 0 := (ofNat_eq (by decide)).trans (by rw [Nat.cast_zero])

theorem one_eq : (1 : Number) = .finite 1 := (ofNat_eq (by decide)).trans (by rw [Nat.cast_one])

theorem isCount_zero : IsCount 0 := ⟨0, rfl, representable_zero⟩

namespace IsCount

/-- A count is finite. -/
theorem isFinite (h : IsCount x) : x.isFinite := by
  obtain ⟨n, rfl, -⟩ := h
  rfl

/-- One more than a count is a count: where the sum is not exact, it is still whole. -/
theorem add_one (h : IsCount x) : IsCount (x + 1) := by
  obtain ⟨n, rfl, hn⟩ := h
  have hsum : Number.finite n + 1 = ofRat ((n + 1 : Nat) : Rat) := by
    rw [one_eq, Nat.cast_add, Nat.cast_one]
    rfl
  rw [hsum]
  refine isCount_ofRat ?_
  rcases le_or_gt n (2 ^ 54) with hsmall | hlarge
  · refine (@bounded_ofRat 55 _ (by decide) ?_).isFinite
    rw [abs_of_nonneg (by positivity)]
    exact_mod_cast (by omega : n + 1 ≤ 2 ^ 55)
  · -- beyond 54 bits the next count is nearer to this one than to any other number
    have hpos : (0 : Rat) < n := by exact_mod_cast (by positivity : 0 < 2 ^ 54).trans hlarge
    have hclose : |((n + 1 : Nat) : Rat) - n| * 2 ^ 54 < n := by
      rw [Nat.cast_add, Nat.cast_one, add_sub_cancel_left, abs_one, one_mul]
      exact_mod_cast hlarge
    rw [ofRat_of_close hn hpos hclose]
    rfl

/-- The larger of two counts is a count. -/
theorem max (hx : IsCount x) (hy : IsCount y) : IsCount (Number.max x y) := by
  obtain ⟨a, rfl, ha⟩ := hx
  obtain ⟨b, rfl, hb⟩ := hy
  unfold Number.max
  dsimp only
  split
  · exact ⟨b, rfl, hb⟩
  · exact ⟨a, rfl, ha⟩

/-- What is left of a count, none when more is taken away than there is. -/
theorem max_sub (hx : IsCount x) (hy : IsCount y) : IsCount (Number.max 0 (x - y)) := by
  obtain ⟨a, rfl, ha⟩ := hx
  obtain ⟨b, rfl, hb⟩ := hy
  have hdiff : Number.finite a - .finite b = ofRat (a - b) := by rw [sub_eq_add_neg]; rfl
  rw [hdiff]
  rcases le_total b a with hba | hab
  · rw [← Nat.cast_sub hba]
    obtain ⟨v, hv, -⟩ := exists_ofRat_le (Nat.cast_nonneg (a - b)) (by exact_mod_cast Nat.sub_le a b) ha
    exact isCount_zero.max (isCount_ofRat (by rw [hv]; rfl))
  · obtain ⟨v, hv, hnonneg, -⟩ := exists_ofRat_le (Nat.cast_nonneg (b - a)) (by exact_mod_cast Nat.sub_le b a) hb
    rw [← neg_sub, ← Nat.cast_sub hab, ofRat_neg, hv]
    have hnone : Number.max 0 (.finite (-v)) = .finite 0 := (max_zero (-v)).trans (by rw [if_neg (by linarith)])
    exact ⟨0, hnone, representable_zero⟩

end IsCount

/-! ## Amounts and percentages -/

/-- A finite floating-point number. -/
def IsAmount (x : Number) : Prop := ∃ q, x = .finite q ∧ Representable q

/-- A number from 0 to 100. -/
def IsPercent (x : Number) : Prop := ∃ q, x = .finite q ∧ Representable q ∧ 0 ≤ q ∧ q ≤ 100

/-- An amount is finite. -/
theorem IsAmount.isFinite (h : x.IsAmount) : x.isFinite := by
  obtain ⟨q, rfl, -⟩ := h
  rfl

/-- An amount is a rounded number. -/
theorem IsAmount.isRounded (h : x.IsAmount) : x.IsRounded := by
  obtain ⟨q, rfl, hq⟩ := h
  intro r hr
  rwa [← finite.inj hr]

/-- An amount is a number. -/
theorem IsAmount.ne_nan (h : x.IsAmount) : x ≠ .nan := by
  obtain ⟨q, rfl, -⟩ := h
  nofun

/-- A rounded number that is finite is an amount. -/
theorem isAmount_of_isRounded (h : x.IsRounded) (hx : x.isFinite) : x.IsAmount := by
  cases x with
  | finite q => exact ⟨q, rfl, h q rfl⟩
  | nan => cases hx
  | infinite negative => cases hx

/-- A count is an amount. -/
theorem IsCount.isAmount (h : x.IsCount) : x.IsAmount := by
  obtain ⟨n, rfl, hn⟩ := h
  exact ⟨n, rfl, hn⟩

/-- A percentage is an amount. -/
theorem IsPercent.isAmount (h : x.IsPercent) : x.IsAmount := by
  obtain ⟨q, rfl, hq, -⟩ := h
  exact ⟨q, rfl, hq⟩

/-- Finite numbers are compared by their values. -/
theorem le_finite (a b : Rat) : (finite a).le (.finite b) = decide (a ≤ b) := by
  rw [Bool.eq_iff_iff]
  simp [le, lt, same, le_iff_lt_or_eq]

/-- The larger of two finite numbers is the one of the larger value. -/
theorem max_finite (a b : Rat) : Number.max (.finite a) (.finite b) = .finite (a ⊔ b) := by
  simp only [Number.max, lt, decide_eq_true_eq]
  split_ifs with h
  · rw [max_eq_right h.le]
  · rw [max_eq_left (not_lt.mp h)]

/-- The smaller of two finite numbers is the one of the smaller value. -/
theorem min_finite (a b : Rat) : Number.min (.finite a) (.finite b) = .finite (a ⊓ b) := by
  simp only [Number.min, lt, decide_eq_true_eq]
  split_ifs with h
  · rw [min_eq_right h.le]
  · rw [min_eq_left (not_lt.mp h)]

/-- A quotient is a rounded number, or none. -/
theorem isRounded_div (x y : Number) : (x / y).IsRounded := by
  intro q hq
  cases x with
  | nan => cases hq
  | infinite negative => cases y <;> cases hq
  | finite a =>
    cases y with
    | nan => cases hq
    | infinite negative => exact Number.finite.inj hq ▸ representable_zero
    | finite b =>
      by_cases hb : b = 0
      · have hdiv : Number.finite a / .finite b = if a = 0 then .nan else .infinite (a < 0) := if_pos hb
        rw [hdiv] at hq
        split at hq <;> cases hq
      · rw [finite_div a hb] at hq
        exact isRounded_ofRat _ q hq

/-- A number of few bits that is rounded to one place is finite. -/
theorem Bounded.isAmount_round1 {x : Number} {n : Nat} (h : Bounded n x) (hn : n + 5 < 1024) : (Arithmetic.round1 x).IsAmount :=
  isAmount_of_isRounded (isRounded_div _ _) (h.round1 hn).isFinite

end QualityGate.Number
