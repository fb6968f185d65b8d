import Mathlib.Algebra.Order.Field.Power
import Mathlib.Data.Rat.Cast.Order
import Mathlib.Tactic.FieldSimp
import Mathlib.Tactic.Linarith
import Mathlib.Tactic.NormNum
import Mathlib.Tactic.Positivity
import Mathlib.Tactic.Ring
import QualityGate.Number

/-!
# Rounding to a floating-point number

A magnitude is rounded to a multiple of a power of two, its spacing, that leaves 53 bits (`Rounds`). The values on that grid are the
floating-point numbers: rounding never passes one of them, so it leaves them as they are, and what it gives is one of them. A value
that differs from a floating-point number by less than one part in `2 ^ 54` is rounded to it.
-/

namespace QualityGate.Number

theorem power_eq_pow (base exponent : Nat) : power base exponent = base ^ exponent := rfl

/-- Powers of two are taken for negative exponents as well. -/
theorem twoPow_eq_zpow (e : Int) : twoPow e = (2 : Rat) ^ e := by
  unfold twoPow
  split
  · rename_i hneg
    obtain ⟨n, rfl⟩ : ∃ n : Nat, e = -n := ⟨(-e).toNat, by omega⟩
    rw [neg_neg, Int.toNat_natCast, zpow_neg, zpow_natCast, Rat.mkRat_eq_div, power_eq_pow]
    push_cast
    rw [one_div]
  · rename_i hnonneg
    obtain ⟨n, rfl⟩ : ∃ n : Nat, e = n := ⟨e.toNat, by omega⟩
    rw [Int.toNat_natCast, zpow_natCast, power_eq_pow]
    push_cast
    rfl

/-- A quotient by a power with an exponent of either sign, as a quotient of whole numbers. -/
theorem scaled_div (num den base : Nat) (e : Int) :
    ((num * power base (-e).toNat : Nat) : Rat) / ((den * power base e.toNat : Nat) : Rat) = (num : Rat) / den / base ^ e := by
  rw [power_eq_pow, power_eq_pow]
  rcases le_total 0 e with hnonneg | hneg
  · obtain ⟨n, rfl⟩ : ∃ n : Nat, e = n := ⟨e.toNat, by omega⟩
    have hzero : (-(n : Int)).toNat = 0 := by omega
    rw [hzero, Int.toNat_natCast, zpow_natCast]
    push_cast
    rw [pow_zero, mul_one, div_div]
  · obtain ⟨n, rfl⟩ : ∃ n : Nat, e = -n := ⟨(-e).toNat, by omega⟩
    have hzero : (-(n : Int)).toNat = 0 := by omega
    rw [neg_neg, hzero, Int.toNat_natCast, zpow_neg, zpow_natCast]
    push_cast
    rw [pow_zero, mul_one, div_inv_eq_mul, mul_div_right_comm]

/-! ## Mantissa and spacing -/

/-- The nearest whole number is at most a half away. -/
theorem abs_nearestEven_sub_le (num : Nat) {den : Nat} (hden : 0 < den) :
    |(nearestEven num den : Rat) - (num : Rat) / den| ≤ 1 / 2 := by
  have hsplit : (num : Rat) = den * ((num / den : Nat) : Rat) + ((num % den : Nat) : Rat) := by
    exact_mod_cast (Nat.div_add_mod num den).symm
  have hpos : (0 : Rat) < den := by exact_mod_cast hden
  have hquotient : (num : Rat) / den = ((num / den : Nat) : Rat) + ((num % den : Nat) : Rat) / den := by
    rw [hsplit]
    field_simp
  have hrest : 0 ≤ ((num % den : Nat) : Rat) / den := by positivity
  have hbelow : ((num % den : Nat) : Rat) / den < 1 := by
    rw [div_lt_one hpos]
    exact_mod_cast Nat.mod_lt _ hden
  have hless : 2 * (num % den) ≤ den → ((num % den : Nat) : Rat) / den ≤ 1 / 2 := by
    intro h
    rw [div_le_iff₀ hpos]
    have : (2 : Rat) * ((num % den : Nat) : Rat) ≤ den := by exact_mod_cast h
    linarith
  have hmore : den ≤ 2 * (num % den) → 1 / 2 ≤ ((num % den : Nat) : Rat) / den := by
    intro h
    rw [le_div_iff₀ hpos]
    have : (den : Rat) ≤ 2 * ((num % den : Nat) : Rat) := by exact_mod_cast h
    linarith
  rw [hquotient, abs_le]
  unfold nearestEven
  dsimp only
  split
  · rename_i hlt
    have := hless hlt.le
    constructor <;> linarith
  split
  · rename_i hgt
    have := hmore hgt.le
    push_cast
    constructor <;> linarith
  have hle := hless (by omega)
  have hge := hmore (by omega)
  split
  · constructor <;> linarith
  · push_cast
    constructor <;> linarith

/-- A magnitude is between two neighbouring powers of two. -/
theorem log2_bounds {n : Nat} (h : n ≠ 0) : (2 : Rat) ^ (n.log2 : Int) ≤ n ∧ (n : Rat) < 2 ^ ((n.log2 : Int) + 1) := by
  constructor
  · rw [zpow_natCast]
    exact_mod_cast Nat.log2_self_le h
  · have hlt : n < 2 ^ (n.log2 + 1) := Nat.lt_log2_self
    rw [← Nat.cast_succ, zpow_natCast]
    exact_mod_cast hlt

/-- A magnitude is below `2 ^ 53` of its spacings, and not below `2 ^ 52` of them unless they are the smallest ones. -/
theorem spacing_spec {num den : Nat} (hnum : num ≠ 0) (hden : 0 < den) :
    -1074 ≤ spacing num den ∧ (num : Rat) / den < 2 ^ (spacing num den + 53) ∧
      (spacing num den = -1074 ∨ (2 : Rat) ^ (spacing num den + 52) ≤ (num : Rat) / den) := by
  obtain ⟨hnumLow, hnumHigh⟩ := log2_bounds hnum
  obtain ⟨hdenLow, hdenHigh⟩ := log2_bounds hden.ne'
  have hpos : (0 : Rat) < den := by exact_mod_cast hden
  have htwo : (2 : Rat) ≠ 0 := by norm_num
  -- the logarithms give the spacing up to one step, and `htest` says that the comparison settles which it is
  set guess : Int := (num.log2 : Int) - (den.log2 : Int) - 52 with hguess
  have hbelow : (num : Rat) / den < 2 ^ (guess + 53) := by
    rw [div_lt_iff₀ hpos]
    calc (num : Rat) < 2 ^ ((num.log2 : Int) + 1) := hnumHigh
      _ = 2 ^ (guess + 53) * 2 ^ (den.log2 : Int) := by rw [← zpow_add₀ htwo, hguess]; congr 1; omega
      _ ≤ 2 ^ (guess + 53) * den := mul_le_mul_of_nonneg_left hdenLow (by positivity)
  have habove : (2 : Rat) ^ (guess + 51) < (num : Rat) / den := by
    rw [lt_div_iff₀ hpos]
    calc (2 : Rat) ^ (guess + 51) * den < 2 ^ (guess + 51) * 2 ^ ((den.log2 : Int) + 1) :=
          mul_lt_mul_of_pos_left hdenHigh (by positivity)
      _ = 2 ^ (num.log2 : Int) := by rw [← zpow_add₀ htwo, hguess]; congr 1; omega
      _ ≤ num := hnumLow
  have htest : num * power 2 (-guess).toNat < den * power 2 guess.toNat * power 2 52 ↔ (num : Rat) / den < 2 ^ (guess + 52) := by
    have hscaledPos : (0 : Rat) < ((den * power 2 guess.toNat : Nat) : Rat) := by
      exact_mod_cast Nat.mul_pos hden (power_pos (by decide) _)
    have hscaled := scaled_div num den 2 guess
    rw [Nat.cast_ofNat] at hscaled
    rw [zpow_add₀ htwo, ← div_lt_iff₀' (by positivity : (0 : Rat) < 2 ^ guess), ← hscaled, div_lt_iff₀' hscaledPos, power_eq_pow 2 52]
    exact_mod_cast Iff.rfl
  have hmono : ∀ {a b : Int}, a ≤ b → (2 : Rat) ^ a ≤ 2 ^ b := fun h => zpow_le_zpow_right₀ (by norm_num) h
  unfold spacing
  dsimp only
  rw [← hguess]
  simp only [htest]
  split
  · rename_i hlt
    refine ⟨le_max_right _ _, hlt.trans_le (hmono (by omega)), ?_⟩
    rcases le_total (-1074) (guess - 1) with hle | hle
    · rw [max_eq_left hle]
      exact .inr (habove.le.trans' (hmono (by omega)))
    · exact .inl (max_eq_right hle)
  · rename_i hge
    refine ⟨le_max_right _ _, hbelow.trans_le (hmono (by omega)), ?_⟩
    rcases le_total (-1074) guess with hle | hle
    · rw [max_eq_left hle]
      exact .inr (not_lt.mp hge)
    · exact .inl (max_eq_right hle)

/-- What a magnitude is rounded to: a mantissa and the exponent of its spacing. -/
structure Rounds (x : Rat) (exponent : Int) (mantissa : Nat) : Prop where
  least : -1074 ≤ exponent
  below : x < 2 ^ (exponent + 53)
  above : exponent = -1074 ∨ (2 : Rat) ^ (exponent + 52) ≤ x
  near : |(mantissa : Rat) - x / 2 ^ exponent| ≤ 1 / 2

/-- Whether a magnitude is a multiple of a spacing by at most 53 bits. -/
def OnGrid (x : Rat) : Prop := ∃ (mantissa : Nat) (exponent : Int), mantissa ≤ 2 ^ 53 ∧ -1074 ≤ exponent ∧ x = mantissa * 2 ^ exponent

/-- On a finer grid the same value is a larger multiple. -/
theorem exists_mul_zpow {m : Nat} {e f : Int} (h : f ≤ e) : ∃ k : Nat, (m : Rat) * 2 ^ e = k * 2 ^ f := by
  refine ⟨m * 2 ^ (e - f).toNat, ?_⟩
  have hsum : e = ((e - f).toNat : Int) + f := by omega
  conv_lhs => rw [hsum, zpow_add₀ (by norm_num), zpow_natCast]
  push_cast
  ring

namespace Rounds

variable {x r : Rat} {e : Int} {m : Nat}

/-- A mantissa has at most 53 bits. -/
theorem mantissa_le (h : Rounds x e m) : m ≤ 2 ^ 53 := by
  have hbelow : x / 2 ^ e < 2 ^ 53 := by
    rw [div_lt_iff₀ (by positivity)]
    have := h.below
    rw [zpow_add₀ (by norm_num)] at this
    rw [mul_comm]
    exact_mod_cast this
  have hnear := (abs_le.mp h.near).2
  have hlt : (m : Rat) < ((2 ^ 53 + 1 : Nat) : Rat) := by
    push_cast
    linarith
  have : m < 2 ^ 53 + 1 := by exact_mod_cast hlt
  omega

theorem onGrid (h : Rounds x e m) : OnGrid (m * 2 ^ e) := ⟨m, e, h.mantissa_le, h.least, rfl⟩

/-- A multiple of the spacing is not passed from below. -/
theorem le_of_multiple (h : Rounds x e m) {k : Nat} (hk : x ≤ k * 2 ^ e) : (m : Rat) * 2 ^ e ≤ k * 2 ^ e := by
  have hpos : (0 : Rat) < 2 ^ e := by positivity
  have hx : x / 2 ^ e ≤ k := by rwa [div_le_iff₀ hpos]
  have hnear := (abs_le.mp h.near).2
  have hlt : (m : Rat) < ((k + 1 : Nat) : Rat) := by
    push_cast
    linarith
  have hle : m ≤ k := Nat.lt_succ_iff.mp (by exact_mod_cast hlt)
  exact mul_le_mul_of_nonneg_right (by exact_mod_cast hle) hpos.le

/-- A multiple of the spacing is not passed from above. -/
theorem ge_of_multiple (h : Rounds x e m) {k : Nat} (hk : (k : Rat) * 2 ^ e ≤ x) : (k : Rat) * 2 ^ e ≤ m * 2 ^ e := by
  have hpos : (0 : Rat) < 2 ^ e := by positivity
  have hx : (k : Rat) ≤ x / 2 ^ e := by rwa [le_div_iff₀ hpos]
  have hnear := (abs_le.mp h.near).1
  have hlt : (k : Rat) < ((m + 1 : Nat) : Rat) := by
    push_cast
    linarith
  have hle : k ≤ m := Nat.lt_succ_iff.mp (by exact_mod_cast hlt)
  exact mul_le_mul_of_nonneg_right (by exact_mod_cast hle) hpos.le

/-- Rounding does not pass a floating-point number from below. -/
theorem le (h : Rounds x e m) (hr : OnGrid r) (hx : x ≤ r) : (m : Rat) * 2 ^ e ≤ r := by
  obtain ⟨n, f, hn, hf, rfl⟩ := hr
  rcases le_or_gt e f with hle | hlt
  · obtain ⟨k, hk⟩ := exists_mul_zpow (m := n) hle
    rw [hk] at hx ⊢
    exact h.le_of_multiple hx
  · -- The spacing of `x` is the coarser one, so `x` is `2 ^ 52` of its spacings, the most that the other grid reaches.
    have htop : (n : Rat) * 2 ^ f ≤ ((2 ^ 52 : Nat) : Rat) * 2 ^ e := by
      calc (n : Rat) * 2 ^ f ≤ 2 ^ 53 * 2 ^ f := mul_le_mul_of_nonneg_right (by exact_mod_cast hn) (by positivity)
        _ = 2 ^ (f + 53) := by rw [zpow_add₀ (by norm_num), mul_comm]; norm_cast
        _ ≤ 2 ^ (52 + e) := zpow_le_zpow_right₀ (by norm_num) (by omega)
        _ = _ := by rw [zpow_add₀ (by norm_num)]; norm_cast
    have hbottom : ((2 ^ 52 : Nat) : Rat) * 2 ^ e ≤ x := by
      have := h.above.resolve_left (by omega)
      rw [add_comm, zpow_add₀ (by norm_num)] at this
      exact_mod_cast this
    have hall : (n : Rat) * 2 ^ f = ((2 ^ 52 : Nat) : Rat) * 2 ^ e := le_antisymm htop (hbottom.trans hx)
    rw [hall] at hx ⊢
    exact h.le_of_multiple hx

/-- Rounding does not pass a floating-point number from above. -/
theorem ge (h : Rounds x e m) (hr : OnGrid r) (hx : r ≤ x) : r ≤ (m : Rat) * 2 ^ e := by
  obtain ⟨n, f, hn, hf, rfl⟩ := hr
  rcases le_or_gt e f with hle | hlt
  · obtain ⟨k, hk⟩ := exists_mul_zpow (m := n) hle
    rw [hk] at hx ⊢
    exact h.ge_of_multiple hx
  · have hbottom : ((2 ^ 52 : Nat) : Rat) * 2 ^ e ≤ x := by
      have := h.above.resolve_left (by omega)
      rw [add_comm, zpow_add₀ (by norm_num)] at this
      exact_mod_cast this
    calc (n : Rat) * 2 ^ f ≤ 2 ^ 53 * 2 ^ f := mul_le_mul_of_nonneg_right (by exact_mod_cast hn) (by positivity)
      _ = 2 ^ (f + 53) := by rw [zpow_add₀ (by norm_num), mul_comm]; norm_cast
      _ ≤ 2 ^ (52 + e) := zpow_le_zpow_right₀ (by norm_num) (by omega)
      _ = ((2 ^ 52 : Nat) : Rat) * 2 ^ e := by rw [zpow_add₀ (by norm_num)]; norm_cast
      _ ≤ _ := h.ge_of_multiple hbottom

/-- Rounding leaves a floating-point number as it is. -/
theorem eq_self (h : Rounds x e m) (hx : OnGrid x) : (m : Rat) * 2 ^ e = x := le_antisymm (h.le hx le_rfl) (h.ge hx le_rfl)

/-- A value near a floating-point number is on a grid that the number is on. -/
theorem exists_multiple (h : Rounds x e m) (hr : OnGrid r) (hclose : (x - r) * 2 ^ 54 < r) : ∃ k : Nat, r = k * 2 ^ e := by
  obtain ⟨n, f, hn, hf, rfl⟩ := hr
  rcases le_or_gt e f with hle | hlt
  · exact exists_mul_zpow hle
  · have hhalf : (2 : Rat) ^ e = 2 * 2 ^ (e - 1) := by
      rw [← zpow_one_add₀ (by norm_num)]
      congr 1
      omega
    have hbottom : (2 : Rat) ^ 53 * 2 ^ (e - 1) ≤ x := by
      have := h.above.resolve_left (by omega)
      rw [add_comm, zpow_add₀ (by norm_num), hhalf] at this
      norm_num at this ⊢
      linarith
    by_cases htop : n = 2 ^ 53 ∧ f = e - 1
    · obtain ⟨rfl, rfl⟩ := htop
      refine ⟨2 ^ 52, ?_⟩
      rw [hhalf]
      norm_num
      ring
    · -- Below the boundary the next number is half a spacing away, too far for `x`.
      exfalso
      have hpos : (0 : Rat) < 2 ^ (e - 1) := by positivity
      have hunder : (n : Rat) * 2 ^ f ≤ (2 ^ 53 - 1) * 2 ^ (e - 1) := by
        rcases eq_or_ne f (e - 1) with rfl | hne
        · have hlast : n ≤ 2 ^ 53 - 1 := by omega
          have hcast : (n : Rat) ≤ ((2 ^ 53 - 1 : Nat) : Rat) := by exact_mod_cast hlast
          refine mul_le_mul_of_nonneg_right ?_ hpos.le
          norm_num at hcast ⊢
          exact hcast
        · have hquarter : (2 : Rat) ^ (e - 1) = 2 * 2 ^ (e - 2) := by
            rw [← zpow_one_add₀ (by norm_num)]
            congr 1
            omega
          calc (n : Rat) * 2 ^ f ≤ 2 ^ 53 * 2 ^ (e - 2) :=
                mul_le_mul (by exact_mod_cast hn) (zpow_le_zpow_right₀ (by norm_num) (by omega)) (by positivity) (by positivity)
            _ = 2 ^ 52 * 2 ^ (e - 1) := by rw [hquarter]; ring
            _ ≤ (2 ^ 53 - 1) * 2 ^ (e - 1) := mul_le_mul_of_nonneg_right (by norm_num) hpos.le
      norm_num at hclose hbottom hunder
      linarith

/-- What differs from a floating-point number by less than one part in `2 ^ 54` is rounded to it. -/
theorem eq_of_close (h : Rounds x e m) (hr : OnGrid r) (hclose : |x - r| * 2 ^ 54 < r) : (m : Rat) * 2 ^ e = r := by
  have hpos : (0 : Rat) < 2 ^ e := by positivity
  have hup : (x - r) * 2 ^ 54 < r := (mul_le_mul_of_nonneg_right (le_abs_self _) (by positivity)).trans_lt hclose
  have hdown : (r - x) * 2 ^ 54 < r := by
    rw [abs_sub_comm] at hclose
    exact (mul_le_mul_of_nonneg_right (le_abs_self _) (by positivity)).trans_lt hclose
  obtain ⟨k, rfl⟩ := h.exists_multiple hr hup
  have hx : x / 2 ^ e * 2 ^ e = x := div_mul_cancel₀ x hpos.ne'
  set y := x / 2 ^ e with hy
  have hyTop : y < 2 ^ 53 := by
    have := h.below
    rw [add_comm, zpow_add₀ (by norm_num), ← hx] at this
    have := lt_of_mul_lt_mul_right this hpos.le
    exact_mod_cast this
  rw [← hx, ← sub_mul] at hup hdown
  have hupper : (y - k) * 2 ^ 54 < k := by
    refine lt_of_mul_lt_mul_right ?_ hpos.le
    linarith
  have hlower : (k - y) * 2 ^ 54 < k := by
    refine lt_of_mul_lt_mul_right ?_ hpos.le
    linarith
  have hk : k ≤ 2 ^ 53 := by
    by_contra hgt
    have hmore : (2 : Rat) ^ 53 + 1 ≤ k := by exact_mod_cast Nat.succ_le_of_lt (not_le.mp hgt)
    linarith
  have hkCast : (k : Rat) ≤ 2 ^ 53 := by exact_mod_cast hk
  obtain ⟨hnearLow, hnearHigh⟩ := abs_le.mp h.near
  rw [← hy] at hnearLow hnearHigh
  have hmk : m < k + 1 := by
    have : (m : Rat) < ((k + 1 : Nat) : Rat) := by push_cast; linarith
    exact_mod_cast this
  have hkm : k < m + 1 := by
    have : (k : Rat) < ((m + 1 : Nat) : Rat) := by push_cast; linarith
    exact_mod_cast this
  rw [show m = k by omega]

end Rounds

/-! ## The numbers that rounding leaves -/

/-- The first power of two that is no number any more. -/
@[irreducible]
def limit : Nat := power 2 1024

/-- The powers of two below the limit are those of smaller exponents. -/
theorem pow_lt_limit {n : Nat} (h : n < 1024) : 2 ^ n < limit := by
  unfold limit
  rw [power_eq_pow]
  gcongr
  decide

/-- The magnitude of a rational number is that of its numerator over its denominator. -/
theorem natAbs_div_den (q : Rat) : (q.num.natAbs : Rat) / q.den = |q| := by
  conv_rhs => rw [← Rat.num_div_den q]
  rw [abs_div, Nat.abs_cast, ← Int.cast_abs, Int.abs_eq_natAbs, Int.cast_natCast]

/-- A magnitude is rounded to the nearest multiple of its spacing, with ties to even, unless that reaches the limit. -/
theorem roundMagnitude_eq {num den : Nat} (h : num ≠ 0) : roundMagnitude num den =
    if limit ≤ nearestEven (num * power 2 (-spacing num den).toNat) (den * power 2 (spacing num den).toNat) *
      power 2 (spacing num den).toNat then none
    else some ((nearestEven (num * power 2 (-spacing num den).toNat) (den * power 2 (spacing num den).toNat) : Rat) *
      twoPow (spacing num den)) := by
  unfold limit
  exact if_neg h

/-- The number nearest to a value that is not zero is its mantissa in spacings, unless that is beyond the largest number. -/
theorem exists_rounds {q : Rat} (hq : q ≠ 0) : ∃ e m, Rounds |q| e m ∧ ofRat q =
    if (limit : Rat) ≤ m * 2 ^ e then .infinite (q < 0) else .finite (if q < 0 then -(m * 2 ^ e) else m * 2 ^ e) := by
  have hnum : q.num.natAbs ≠ 0 := by
    rw [Int.natAbs_ne_zero]
    exact Rat.num_ne_zero.mpr hq
  set e := spacing q.num.natAbs q.den with he
  set m := nearestEven (q.num.natAbs * power 2 (-e).toNat) (q.den * power 2 e.toNat) with hm
  obtain ⟨hleast, hbelow, habove⟩ := spacing_spec hnum q.den_pos
  rw [natAbs_div_den] at hbelow habove
  have hrounds : Rounds |q| e m := by
    refine ⟨hleast, hbelow, habove, ?_⟩
    have hscaled := scaled_div q.num.natAbs q.den 2 e
    rw [Nat.cast_ofNat, natAbs_div_den] at hscaled
    rw [← hscaled]
    exact abs_nearestEven_sub_le _ (Nat.mul_pos q.den_pos (power_pos (by decide) _))
  have htest : limit ≤ m * power 2 e.toNat ↔ (limit : Rat) ≤ m * 2 ^ e := by
    rcases le_total 0 e with hnonneg | hneg
    · obtain ⟨n, hn⟩ : ∃ n : Nat, e = n := ⟨e.toNat, by omega⟩
      rw [hn, Int.toNat_natCast, zpow_natCast, power_eq_pow]
      exact_mod_cast Iff.rfl
    · have hzero : e.toNat = 0 := by omega
      have hsmall : m < limit := hrounds.mantissa_le.trans_lt (pow_lt_limit (by decide))
      rw [hzero, power_zero, mul_one]
      refine iff_of_false hsmall.not_ge (not_le.mpr ?_)
      calc (m : Rat) * 2 ^ e ≤ m * 1 := mul_le_mul_of_nonneg_left (zpow_le_one_of_nonpos₀ (by norm_num) hneg) (by positivity)
        _ < limit := by rw [mul_one]; exact_mod_cast hsmall
  refine ⟨e, m, hrounds, ?_⟩
  have hmagnitude : roundMagnitude q.num.natAbs q.den = if limit ≤ m * power 2 e.toNat then none else some ((m : Rat) * 2 ^ e) := by
    rw [roundMagnitude_eq hnum, ← he, ← hm, twoPow_eq_zpow]
  unfold ofRat
  rw [hmagnitude]
  by_cases hlarge : (limit : Rat) ≤ m * 2 ^ e
  · rw [if_pos (htest.mpr hlarge), if_pos hlarge]
    simp [Rat.num_neg]
  · rw [if_neg (mt htest.mp hlarge), if_neg hlarge]
    simp [Rat.num_neg]

/-- A value that rounding leaves as it is: a floating-point number. -/
def Representable (q : Rat) : Prop := ofRat q = .finite q

instance (q : Rat) : Decidable (Representable q) := inferInstanceAs (Decidable (ofRat q = .finite q))

theorem representable_zero : Representable 0 := rfl

/-- The values that rounding leaves are those on a grid, below the limit. -/
theorem representable_iff {q : Rat} : Representable q ↔ OnGrid |q| ∧ |q| < limit := by
  by_cases hq : q = 0
  · subst hq
    refine iff_of_true representable_zero ⟨⟨0, 0, by decide, by decide, by simp⟩, ?_⟩
    rw [abs_zero]
    exact_mod_cast (Nat.zero_le _).trans_lt (pow_lt_limit (n := 0) (by decide))
  obtain ⟨e, m, hrounds, hof⟩ := exists_rounds hq
  have hsigned : (if q < 0 then -((m : Rat) * 2 ^ e) else m * 2 ^ e) = q ↔ (m : Rat) * 2 ^ e = |q| := by
    split
    · rename_i hneg
      rw [abs_of_neg hneg, neg_eq_iff_eq_neg]
    · rename_i hnonneg
      rw [abs_of_nonneg (not_lt.mp hnonneg)]
  unfold Representable
  rw [hof]
  split
  · rename_i hlarge
    refine iff_of_false nofun fun ⟨hgrid, hsmall⟩ => ?_
    rw [hrounds.eq_self hgrid] at hlarge
    exact hsmall.not_ge hlarge
  · rename_i hsmall
    rw [finite.injEq, hsigned]
    refine ⟨fun heq => ⟨heq ▸ hrounds.onGrid, heq ▸ not_le.mp hsmall⟩, fun ⟨hgrid, _⟩ => hrounds.eq_self hgrid⟩

/-- Whole numbers of up to 53 bits are floating-point numbers. -/
theorem representable_intCast {i : Int} (h : i.natAbs ≤ 2 ^ 53) : Representable (i : Rat) := by
  have habs : |(i : Rat)| = (i.natAbs : Rat) := by rw [← Int.cast_abs, Int.abs_eq_natAbs, Int.cast_natCast]
  refine representable_iff.mpr ⟨⟨i.natAbs, 0, h, by decide, ?_⟩, ?_⟩
  · rw [habs, zpow_zero, mul_one]
  · rw [habs]
    exact_mod_cast h.trans_lt (pow_lt_limit (by decide))

/-- What rounding gives is a floating-point number. -/
theorem representable_of_ofRat {q r : Rat} (h : ofRat q = .finite r) : Representable r := by
  by_cases hq : q = 0
  · subst hq
    obtain rfl : 0 = r := finite.inj h
    exact representable_zero
  obtain ⟨e, m, hrounds, hof⟩ := exists_rounds hq
  rw [hof] at h
  split at h
  · cases h
  · rename_i hsmall
    have habs : |r| = m * 2 ^ e := by
      rw [← finite.inj h]
      split
      · rw [abs_neg, abs_of_nonneg (by positivity)]
      · rw [abs_of_nonneg (by positivity)]
    exact representable_iff.mpr ⟨habs ▸ hrounds.onGrid, habs ▸ not_le.mp hsmall⟩

/-- Rounding does not mind the sign. -/
theorem ofRat_neg (q : Rat) : ofRat (-q) = neg (ofRat q) := by
  unfold ofRat
  simp only [Rat.neg_num, Rat.neg_den, Int.natAbs_neg]
  cases h : roundMagnitude q.num.natAbs q.den with
  | none =>
    have hnum : q.num ≠ 0 := by
      intro hzero
      rw [hzero] at h
      cases h
    simp only [neg, infinite.injEq]
    rw [← decide_not]
    exact decide_eq_decide.mpr (by omega)
  | some magnitude =>
    simp only [neg, finite.injEq]
    rcases lt_trichotomy q.num 0 with hlt | heq | hgt
    · rw [if_neg (by omega), if_pos hlt, neg_neg]
    · rw [heq] at h
      obtain rfl : 0 = magnitude := Option.some.inj h
      rw [neg_zero, ite_self, ite_self, neg_zero]
    · rw [if_pos (by omega), if_neg (by omega)]

/-- The opposite of a floating-point number is one. -/
theorem Representable.neg {q : Rat} (h : Representable q) : Representable (-q) := by
  unfold Representable
  rw [ofRat_neg, h]
  rfl

/-- A value up to a floating-point number is rounded to one up to it. -/
theorem exists_ofRat_le {q r : Rat} (hq : 0 ≤ q) (hle : q ≤ r) (hr : Representable r) : ∃ v, ofRat q = .finite v ∧ 0 ≤ v ∧ v ≤ r := by
  rcases hq.eq_or_lt with rfl | hpos
  · exact ⟨0, rfl, le_rfl, hle⟩
  obtain ⟨hgrid, hsmall⟩ := representable_iff.mp hr
  rw [abs_of_nonneg (hq.trans hle)] at hgrid hsmall
  obtain ⟨e, m, hrounds, hof⟩ := exists_rounds hpos.ne'
  rw [abs_of_pos hpos] at hrounds
  have hbound := hrounds.le hgrid hle
  rw [if_neg (not_le.mpr (hbound.trans_lt hsmall)), if_neg hpos.not_gt] at hof
  exact ⟨_, hof, by positivity, hbound⟩

/-- A value from a floating-point number on is rounded to one from it on. -/
theorem le_of_ofRat {q r v : Rat} (hr : Representable r) (hpos : 0 ≤ r) (hle : r ≤ q) (h : ofRat q = .finite v) : r ≤ v := by
  rcases (hpos.trans hle).eq_or_lt with rfl | hq
  · obtain rfl : 0 = v := finite.inj h
    exact hle
  obtain ⟨hgrid, -⟩ := representable_iff.mp hr
  rw [abs_of_nonneg hpos] at hgrid
  obtain ⟨e, m, hrounds, hof⟩ := exists_rounds hq.ne'
  rw [abs_of_pos hq] at hrounds
  rw [hof, if_neg hq.not_gt] at h
  split at h
  · cases h
  · rw [← finite.inj h]
    exact hrounds.ge hgrid hle

/-- What differs from a floating-point number by less than one part in `2 ^ 54` is rounded to it. -/
theorem ofRat_of_close {q r : Rat} (hr : Representable r) (hpos : 0 < r) (hclose : |q - r| * 2 ^ 54 < r) : ofRat q = .finite r := by
  obtain ⟨hgrid, hsmall⟩ := representable_iff.mp hr
  rw [abs_of_pos hpos] at hgrid hsmall
  have hq : 0 < q := by
    by_contra hneg
    rw [abs_of_nonpos (by linarith)] at hclose
    linarith
  obtain ⟨e, m, hrounds, hof⟩ := exists_rounds hq.ne'
  rw [abs_of_pos hq] at hrounds
  rw [hof, if_neg hq.not_gt, hrounds.eq_of_close hgrid hclose, if_neg (not_le.mpr hsmall)]

/-- What a value is rounded to is at most twice as large or as small. -/
theorem double_of_ofRat {q r : Rat} (h : ofRat q = .finite r) (hr : 0 < r) : q ≤ 2 * r ∧ r ≤ 2 * q := by
  have hq : q ≠ 0 := by
    rintro rfl
    exact hr.ne (finite.inj h)
  obtain ⟨e, m, hrounds, hof⟩ := exists_rounds hq
  rw [hof] at h
  split at h
  · cases h
  · have hvalue := finite.inj h
    split at hvalue
    · have : (0 : Rat) ≤ m * 2 ^ e := by positivity
      linarith
    · rename_i hnonneg
      rw [abs_of_nonneg (not_lt.mp hnonneg)] at hrounds
      have hpos : (0 : Rat) < 2 ^ e := by positivity
      have hm : (1 : Rat) ≤ m := by
        have hne : m ≠ 0 := by
          rintro rfl
          rw [Nat.cast_zero, zero_mul] at hvalue
          exact hr.ne hvalue
        exact_mod_cast Nat.one_le_iff_ne_zero.mpr hne
      have hx : q / 2 ^ e * 2 ^ e = q := div_mul_cancel₀ q hpos.ne'
      obtain ⟨hlow, hhigh⟩ := abs_le.mp hrounds.near
      rw [← hvalue, ← hx]
      constructor
      · rw [← mul_assoc]
        exact mul_le_mul_of_nonneg_right (by linarith) hpos.le
      · rw [← mul_assoc]
        exact mul_le_mul_of_nonneg_right (by linarith) hpos.le

/-- The numbers above zero are at least the smallest spacing. -/
theorem Representable.ge {q : Rat} (h : Representable q) (hpos : 0 < q) : (2 : Rat) ^ (-1074 : Int) ≤ q := by
  obtain ⟨⟨m, e, -, he, heq⟩, -⟩ := representable_iff.mp h
  rw [abs_of_pos hpos] at heq
  have hm : (1 : Rat) ≤ m := by
    have hne : m ≠ 0 := by
      rintro rfl
      rw [Nat.cast_zero, zero_mul] at heq
      exact hpos.ne' heq
    exact_mod_cast Nat.one_le_iff_ne_zero.mpr hne
  rw [heq]
  calc (2 : Rat) ^ (-1074 : Int) ≤ 2 ^ e := zpow_le_zpow_right₀ (by norm_num) he
    _ ≤ m * 2 ^ e := le_mul_of_one_le_left (by positivity) hm

/-- Floating-point numbers are below the limit. -/
theorem Representable.lt {q : Rat} (h : Representable q) : |q| < (2 : Rat) ^ (1024 : Int) := by
  have hlimit : (limit : Rat) = 2 ^ (1024 : Int) := by
    unfold limit
    rw [power_eq_pow, Nat.cast_pow, Nat.cast_ofNat]
    exact (zpow_natCast (2 : Rat) 1024).symm
  rw [← hlimit]
  exact (representable_iff.mp h).2

/-- A value as it comes out of rounding. -/
def IsRounded (x : Number) : Prop := ∀ q, x = .finite q → Representable q

instance (x : Number) : Decidable x.IsRounded :=
  match x with
  | .finite q => decidable_of_iff (Representable q) ⟨fun h _ heq => finite.inj heq ▸ h, fun h => h q rfl⟩
  | .nan => isTrue nofun
  | .infinite _ => isTrue nofun

theorem isRounded_ofRat (q : Rat) : (ofRat q).IsRounded := fun _ h => representable_of_ofRat h

/-- The opposite of a rounded number is rounded. -/
theorem IsRounded.neg {x : Number} (h : x.IsRounded) : x.neg.IsRounded := by
  intro q hq
  cases x with
  | finite r =>
    rw [← finite.inj hq]
    exact (h r rfl).neg
  | nan => cases hq
  | infinite negative => cases hq

end QualityGate.Number
