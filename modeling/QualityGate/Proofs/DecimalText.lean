import Mathlib.Algebra.Order.Floor.Semifield
import QualityGate.Json.Parser
import QualityGate.Proofs.Rounding

/-!
# Reading back the text of a number

The text of a floating-point number is read as the number (`Json.takeNumber_text`). Among the decimals with seventeen digits there
is one closer than a part in `2 ^ 54`, so the search for the shortest decimal that reads back finds one; however its digits are laid
out, with zeros, a point or an exponent, they make up a `Json.Numeral` of the same value.
-/

namespace QualityGate

namespace Number

/-! ## Digits -/

/-- Digits behind a number multiply it by the base for each of them, and add what they write. -/
theorem foldl_digits (base : Nat) (ds : List Char) (start : Nat) :
    ds.foldl (fun total c => total * base + (digitValue? base c).getD 0) start = start * base ^ ds.length + ofDigits base ds := by
  induction ds generalizing start with
  | nil => simp [ofDigits]
  | cons c ds ih =>
    have hcons : ofDigits base (c :: ds) = (0 * base + (digitValue? base c).getD 0) * base ^ ds.length + ofDigits base ds := ih _
    rw [List.foldl_cons, ih, hcons, List.length_cons]
    ring

/-- Digits are read in two parts, of which the first counts in powers of the base. -/
theorem ofDigits_append (base : Nat) (xs ys : List Char) :
    ofDigits base (xs ++ ys) = ofDigits base xs * base ^ ys.length + ofDigits base ys := by
  rw [ofDigits, List.foldl_append, foldl_digits]
  rfl

/-- The value of a decimal digit is its distance from zero. -/
theorem digitValue?_of_isDigit {c : Char} (h : c.isDigit) : digitValue? 10 c = some (c.toNat - 48) := by
  have hrange : '0' ≤ c ∧ c ≤ '9' := by
    simpa [Char.isDigit, Char.le_def] using h
  have hbelow : c.toNat - '0'.toNat < 10 := by
    have hle : c.toNat ≤ 57 := hrange.2
    change c.toNat - 48 < 10
    omega
  unfold digitValue?
  rw [if_pos hrange, Option.filter_some, if_pos (decide_eq_true hbelow)]
  rfl

/-- Decimal digits are read as the library reads them. -/
theorem ofDigits_eq_ofDigitChars {ds : List Char} (h : ∀ c ∈ ds, c.isDigit) : ofDigits 10 ds = Nat.ofDigitChars 10 ds 0 := by
  unfold ofDigits
  rw [Nat.ofDigitChars_eq_foldl]
  refine List.foldl_ext _ _ 0 fun total c hc => ?_
  rw [digitValue?_of_isDigit (h c hc), mul_comm]
  rfl

theorem isDigit_of_mem_digits {n : Nat} {c : Char} (h : c ∈ digits n) : c.isDigit :=
  Nat.isDigit_of_mem_toDigits (by decide) (by decide) h

/-- The digits of a number read back as the number. -/
@[simp]
theorem ofDigits_digits (n : Nat) : ofDigits 10 (digits n) = n := by
  rw [ofDigits_eq_ofDigitChars fun c hc => isDigit_of_mem_digits hc]
  exact Nat.ofDigitChars_toDigits (by decide) (by decide)

/-- Zeros write zero. -/
@[simp]
theorem ofDigits_zeros (count : Nat) : ofDigits 10 (List.replicate count '0') = 0 := by
  induction count with
  | zero => rfl
  | succ n ih => rw [List.replicate_succ', ofDigits_append, ih]; rfl

theorem digits_ne_nil (n : Nat) : digits n ≠ [] := Nat.toDigits_ne_nil

/-- A number that is not zero is written without a leading zero. -/
theorem head?_digits {n : Nat} (h : n ≠ 0) : (digits n).head? ≠ some '0' := by
  induction n using Nat.strong_induction_on with
  | _ n ih =>
    unfold digits
    rw [Nat.toDigits_eq_if (by decide)]
    split
    · rename_i hlt
      intro heq
      have hzero : Nat.digitChar n = '0' := by simpa using heq
      have := Nat.toNat_digitChar_of_lt_ten hlt
      rw [hzero] at this
      change 48 = 48 + n at this
      omega
    · rename_i hge
      rw [List.head?_append_of_ne_nil _ (Nat.toDigits_ne_nil)]
      exact ih (n / 10) (by omega) (by omega)

/-- A number is below the power of ten that has one digit more. -/
theorem lt_pow_length_digits (n : Nat) : n < 10 ^ (digits n).length :=
  (Nat.length_toDigits_le_iff (by decide) (List.length_pos_iff.mpr (digits_ne_nil n))).mp le_rfl

/-- A number that is not zero reaches the power of ten that has as many digits. -/
theorem pow_length_digits_le {n : Nat} (h : n ≠ 0) : 10 ^ ((digits n).length - 1) ≤ n := by
  rcases Nat.eq_zero_or_pos ((digits n).length - 1) with hzero | hpos
  · rw [hzero]
    omega
  · by_contra hlt
    have := (Nat.length_toDigits_le_iff (b := 10) (by decide) hpos).mpr (not_le.mp hlt)
    unfold digits at hpos
    unfold digits at this
    omega

/-! ## Powers of ten -/

/-- A coefficient with its exponent is the number that they write. -/
theorem tenScaled_eq (c : Nat) (e : Int) : tenScaled c e = (c : Rat) * 10 ^ e := by
  have h := scaled_div c 1 10 (-e)
  rw [neg_neg, one_mul, Nat.cast_one, div_one, zpow_neg, div_inv_eq_mul, Nat.cast_ofNat] at h
  rw [tenScaled, Rat.mkRat_eq_div, ← h]
  rfl

/-- The comparison with a power of ten is made without a division. -/
theorem belowTenPow_iff {num den : Nat} (hden : 0 < den) (k : Int) :
    belowTenPow num den k ↔ (num : Rat) / den < 10 ^ k := by
  have hscaled := scaled_div num den 10 k
  have hpos : (0 : Rat) < ((den * power 10 k.toNat : Nat) : Rat) := by
    exact_mod_cast Nat.mul_pos hden (power_pos (by decide) _)
  rw [Nat.cast_ofNat] at hscaled
  rw [← div_lt_one (by positivity : (0 : Rat) < 10 ^ k), ← hscaled, div_lt_one hpos, belowTenPow, decide_eq_true_iff]
  exact_mod_cast Iff.rfl

/-- The first guess at the count of digits is not too high. -/
theorem tenPow_guess_le {k : Int} (hlow : -1100 ≤ k) (hhigh : k ≤ 1100) : (10 : Rat) ^ (k * 30103 / 100000 - 1 - 1) ≤ 2 ^ k := by
  set g := k * 30103 / 100000 - 1 - 1 with hg
  rcases le_total 0 k with hpos | hneg
  · refine le_of_pow_le_pow_left₀ (n := 10) (by decide) (by positivity) ?_
    calc ((10 : Rat) ^ g) ^ 10 = 10 ^ (g * 10) := by rw [zpow_mul, zpow_ofNat]
      _ ≤ 10 ^ (3 * k) := zpow_le_zpow_right₀ (by norm_num) (by omega)
      _ = (10 ^ 3) ^ k := by rw [zpow_mul, zpow_ofNat]
      _ ≤ (2 ^ 10) ^ k := zpow_le_zpow_left₀ hpos (by norm_num) (by norm_num)
      _ = ((2 : Rat) ^ k) ^ 10 := by rw [← zpow_ofNat, ← zpow_mul, mul_comm, zpow_mul, zpow_ofNat]
  · refine le_of_pow_le_pow_left₀ (n := 93) (by decide) (by positivity) ?_
    have hpowers : ((10 : Rat) ^ 28) ^ k ≤ (2 ^ 93) ^ k := by
      obtain ⟨n, rfl⟩ : ∃ n : Nat, k = -n := ⟨(-k).toNat, by omega⟩
      rw [zpow_neg, zpow_neg, zpow_natCast, zpow_natCast]
      exact inv_anti₀ (by positivity) (pow_le_pow_left₀ (by norm_num) (by norm_num) n)
    calc ((10 : Rat) ^ g) ^ 93 = 10 ^ (g * 93) := by rw [zpow_mul, zpow_ofNat]
      _ ≤ 10 ^ (28 * k) := zpow_le_zpow_right₀ (by norm_num) (by omega)
      _ = (10 ^ 28) ^ k := by rw [zpow_mul, zpow_ofNat]
      _ ≤ (2 ^ 93) ^ k := hpowers
      _ = ((2 : Rat) ^ k) ^ 93 := by rw [← zpow_ofNat, ← zpow_mul, mul_comm, zpow_mul, zpow_ofNat]

/-- The search for the place of the point never goes beyond the number. -/
theorem climb_spec (num : Nat) {den : Nat} (hden : 0 < den) (fuel : Nat) (k : Int) (h : (10 : Rat) ^ (k - 1) ≤ (num : Rat) / den) :
    (10 : Rat) ^ (pointPosition.climb num den fuel k - 1) ≤ (num : Rat) / den := by
  induction fuel generalizing k with
  | zero => exact h
  | succ fuel ih =>
    unfold pointPosition.climb
    split
    · exact h
    · rename_i hfail
      refine ih (k + 1) ?_
      rw [add_sub_cancel_right]
      exact not_lt.mp (mt (belowTenPow_iff hden k).mpr hfail)

/-- The decimal point does not stand too far to the right. -/
theorem tenPow_pointPosition_le {q : Rat} (hq : Representable q) (hpos : 0 < q) :
    (10 : Rat) ^ (pointPosition q.num.natAbs q.den - 1) ≤ q := by
  have hvalue : (q.num.natAbs : Rat) / q.den = q := by rw [natAbs_div_den, abs_of_pos hpos]
  have hnum : q.num.natAbs ≠ 0 := by
    rw [Int.natAbs_ne_zero]
    exact Rat.num_ne_zero.mpr hpos.ne'
  obtain ⟨hnumLow, hnumHigh⟩ := log2_bounds hnum
  obtain ⟨hdenLow, hdenHigh⟩ := log2_bounds q.den_pos.ne'
  have hdenPos : (0 : Rat) < q.den := by exact_mod_cast q.den_pos
  set k : Int := (q.num.natAbs.log2 : Int) - (q.den.log2 : Int) - 1 with hk
  have hbelow : (2 : Rat) ^ k ≤ q := by
    rw [← hvalue, le_div_iff₀ hdenPos]
    calc (2 : Rat) ^ k * q.den ≤ 2 ^ k * 2 ^ ((q.den.log2 : Int) + 1) := mul_le_mul_of_nonneg_left hdenHigh.le (by positivity)
      _ = 2 ^ (q.num.natAbs.log2 : Int) := by rw [← zpow_add₀ (by norm_num), hk]; congr 1; omega
      _ ≤ q.num.natAbs := hnumLow
  have habove : q < (2 : Rat) ^ (k + 2) := by
    rw [← hvalue, div_lt_iff₀ hdenPos]
    calc (q.num.natAbs : Rat) < 2 ^ ((q.num.natAbs.log2 : Int) + 1) := hnumHigh
      _ = 2 ^ (k + 2) * 2 ^ (q.den.log2 : Int) := by rw [← zpow_add₀ (by norm_num), hk]; congr 1; omega
      _ ≤ 2 ^ (k + 2) * q.den := mul_le_mul_of_nonneg_left hdenLow (by positivity)
  have hhigh : k < 1024 := by
    rw [← zpow_lt_zpow_iff_right₀ (by norm_num : (1 : Rat) < 2)]
    exact hbelow.trans_lt (lt_of_abs_lt hq.lt)
  have hlow : -1074 < k + 2 := by
    rw [← zpow_lt_zpow_iff_right₀ (by norm_num : (1 : Rat) < 2)]
    exact (hq.ge hpos).trans_lt habove
  conv_rhs => rw [← hvalue]
  refine climb_spec _ q.den_pos 6 _ ?_
  rw [hvalue]
  exact (tenPow_guess_le (by omega) (by omega)).trans hbelow

/-! ## The shortest decimal -/

/-- A decimal on the grid of some count of digits that reads back is the magnitude. -/
theorem ofRat_of_readsBack {q : Rat} {point : Int} {count c : Nat} {e : Int} (h : readsBack q point count = some (c, e)) :
    ofRat (tenScaled c e) = .finite q := by
  unfold readsBack at h
  dsimp only at h
  split at h
  · rename_i hboth
    split at h
    · cases h
      exact hboth.1
    · cases h
      exact hboth.2
  split at h
  · rename_i hlow
    cases h
    exact hlow
  split at h
  · rename_i hhigh
    cases h
    exact hhigh
  · cases h

/-- Seventeen digits suffice. -/
theorem readsBack_seventeen {q : Rat} (hq : Representable q) (hpos : 0 < q) :
    (readsBack q (pointPosition q.num.natAbs q.den) 17).isSome := by
  set point := pointPosition q.num.natAbs q.den with hpoint
  have hvalue : (q.num.natAbs : Rat) / q.den = q := by rw [natAbs_div_den, abs_of_pos hpos]
  have hden : 0 < q.den * power 10 (point - 17).toNat := Nat.mul_pos q.den_pos (power_pos (by decide) _)
  set low := q.num.natAbs * power 10 (-(point - 17)).toNat / (q.den * power 10 (point - 17).toNat) with hlow
  have hten : (0 : Rat) < 10 ^ (point - 17) := by positivity
  have hspacing : (10 : Rat) ^ (point - 17) * 10 ^ 16 ≤ q := by
    refine le_of_eq_of_le ?_ (tenPow_pointPosition_le hq hpos)
    rw [← zpow_ofNat, ← zpow_add₀ (by norm_num), ← hpoint]
    congr 1
    omega
  have hscaled : ((q.num.natAbs * power 10 (-(point - 17)).toNat : Nat) : Rat) / ((q.den * power 10 (point - 17).toNat : Nat) : Rat) =
      q / 10 ^ (point - 17) := by
    rw [scaled_div, hvalue, Nat.cast_ofNat]
  -- the number lies between two neighbours on the grid of seventeen digits, of which the nearer one is close enough
  have hfloor : (low : Rat) * 10 ^ (point - 17) ≤ q ∧ q < ((low + 1 : Nat) : Rat) * 10 ^ (point - 17) := by
    rw [← le_div_iff₀ hten, ← div_lt_iff₀ hten, ← hscaled, le_div_iff₀ (by exact_mod_cast hden), div_lt_iff₀ (by exact_mod_cast hden)]
    constructor
    · exact_mod_cast Nat.div_mul_le_self _ _
    · exact_mod_cast (Nat.div_lt_iff_lt_mul hden).mp (Nat.lt_succ_self low)
  have hclose : ∀ c : Nat, |(c : Rat) * 10 ^ (point - 17) - q| ≤ 10 ^ (point - 17) / 2 →
      ofRat (tenScaled c (point - 17)) = .finite q := by
    intro c hc
    rw [tenScaled_eq]
    refine ofRat_of_close hq hpos ?_
    calc |(c : Rat) * 10 ^ (point - 17) - q| * 2 ^ 54 ≤ 10 ^ (point - 17) / 2 * 2 ^ 54 :=
          mul_le_mul_of_nonneg_right hc (by positivity)
      _ < 10 ^ (point - 17) * 10 ^ 16 := by
          rw [div_mul_eq_mul_div, mul_div_assoc]
          exact mul_lt_mul_of_pos_left (by norm_num) hten
      _ ≤ q := hspacing
  have hback : ofRat (tenScaled low (point - 17)) = .finite q ∨ ofRat (tenScaled (low + 1) (point - 17)) = .finite q := by
    obtain ⟨hbelow, habove⟩ := hfloor
    rw [Nat.cast_succ, add_mul, one_mul] at habove
    rcases le_total (q - low * 10 ^ (point - 17)) (10 ^ (point - 17) / 2) with hnear | hfar
    · refine .inl (hclose low ?_)
      rw [abs_sub_comm, abs_of_nonneg (by linarith)]
      exact hnear
    · refine .inr (hclose (low + 1) ?_)
      rw [Nat.cast_succ, add_mul, one_mul, abs_of_pos (by linarith)]
      linarith
  unfold readsBack gridNeighbours
  dsimp only
  rw [Nat.cast_ofNat, ← hlow]
  split
  · split <;> rfl
  split
  · rfl
  split
  · rfl
  · tauto

/-- Moving zeros at the end into the exponent keeps the value. -/
theorem stripZeros_spec (fuel c : Nat) (e : Int) (hc : c ≠ 0) : (stripZeros fuel c e).1 ≠ 0 ∧
    tenScaled (stripZeros fuel c e).1 (stripZeros fuel c e).2 = tenScaled c e := by
  induction fuel generalizing c e with
  | zero => exact ⟨hc, rfl⟩
  | succ fuel ih =>
    unfold stripZeros
    split
    · rename_i hzero
      obtain ⟨n, rfl⟩ : ∃ n, c = n * 10 := ⟨c / 10, by omega⟩
      rw [Nat.mul_div_cancel _ (by decide)]
      obtain ⟨hne, heq⟩ := ih n (e + 1) (by omega)
      refine ⟨hne, heq.trans ?_⟩
      rw [tenScaled_eq, tenScaled_eq, zpow_add_one₀ (by norm_num)]
      push_cast
      ring
    · exact ⟨hc, rfl⟩

/-- The shortest decimal of a number above zero reads back as the number. -/
theorem shortest_spec {q : Rat} (hq : Representable q) (hpos : 0 < q) :
    (shortest q).1 ≠ 0 ∧ ofRat (tenScaled (shortest q).1 (shortest q).2) = .finite q := by
  obtain ⟨⟨c, e⟩, hfound⟩ : ∃ found, ((List.range 17).map (· + 1)).findSome?
      (readsBack q (pointPosition q.num.natAbs q.den)) = some found := by
    rw [← Option.isSome_iff_exists, List.findSome?_isSome_iff]
    exact ⟨17, by decide, readsBack_seventeen hq hpos⟩
  have hback : ofRat (tenScaled c e) = .finite q := by
    obtain ⟨count, -, hcount⟩ := List.exists_of_findSome?_eq_some hfound
    exact ofRat_of_readsBack hcount
  have hc : c ≠ 0 := by
    rintro rfl
    rw [tenScaled_eq, Nat.cast_zero, zero_mul] at hback
    exact hpos.ne (finite.inj hback)
  have heq : shortest q = stripZeros 20 c e := by
    unfold shortest
    dsimp only
    rw [hfound]
    rfl
  obtain ⟨hne, hvalue⟩ := stripZeros_spec 20 c e hc
  rw [heq, hvalue]
  exact ⟨hne, hback⟩

/-- A decimal that is rounded to a number above zero is in the range in which it is rounded at all. -/
theorem ofScaled_eq {c : Nat} {e : Int} {q : Rat} (hpos : 0 < q) (hq : Representable q) (h : ofRat ((c : Rat) * 10 ^ e) = .finite q) :
    ofScaled c e = .finite q := by
  have hc : c ≠ 0 := by
    rintro rfl
    rw [Nat.cast_zero, zero_mul] at h
    exact hpos.ne (finite.inj h)
  obtain ⟨hhigh, hlow⟩ := double_of_ofRat h hpos
  set size : Int := ((digits c).length : Int) with hsize
  have hsizePos : 0 < (digits c).length := List.length_pos_iff.mpr (digits_ne_nil c)
  have hten : (10 : Rat) ≠ 0 := by norm_num
  have htwo : (2 : Rat) ≠ 0 := by norm_num
  have height : (2 : Rat) ^ (1200 : Int) ≤ 10 ^ (400 : Int) := by
    rw [show (1200 : Int) = 3 * 400 by rfl, zpow_mul]
    exact zpow_le_zpow_left₀ (by decide) (by positivity) (by norm_num)
  have habove : (10 : Rat) ^ (size - 1 + e) ≤ c * 10 ^ e := by
    rw [zpow_add₀ hten, show size - 1 = (((digits c).length - 1 : Nat) : Int) by omega, zpow_natCast]
    exact mul_le_mul_of_nonneg_right (by exact_mod_cast pow_length_digits_le hc) (by positivity)
  have hbelow : (c : Rat) * 10 ^ e < 10 ^ (size + e) := by
    rw [zpow_add₀ hten, hsize, zpow_natCast]
    exact mul_lt_mul_of_pos_right (by exact_mod_cast lt_pow_length_digits c) (by positivity)
  -- beyond 400 digits on either side the value would leave the range of the numbers above zero
  have hnotHigh : ¬ 400 < size + e := by
    intro hover
    have hless : (10 : Rat) ^ (400 : Int) < 2 ^ (1025 : Int) := by
      calc (10 : Rat) ^ (400 : Int) ≤ 10 ^ (size - 1 + e) := zpow_le_zpow_right₀ (by norm_num) (by omega)
        _ ≤ 2 * q := habove.trans hhigh
        _ < 2 * 2 ^ (1024 : Int) := mul_lt_mul_of_pos_left (lt_of_abs_lt hq.lt) (by norm_num)
        _ = 2 ^ (1025 : Int) := (zpow_one_add₀ htwo 1024).symm
    have hmore : (2 : Rat) ^ (1025 : Int) ≤ 2 ^ (1200 : Int) := zpow_le_zpow_right₀ (by norm_num) (by decide)
    exact hless.not_ge (hmore.trans height)
  have hnotLow : ¬ size + e < -400 := by
    intro hunder
    have hless : (2 : Rat) ^ (-1074 : Int) < 2 ^ (-1199 : Int) := by
      calc (2 : Rat) ^ (-1074 : Int) ≤ q := hq.ge hpos
        _ ≤ 2 * (c * 10 ^ e) := hlow
        _ < 2 * 10 ^ (size + e) := mul_lt_mul_of_pos_left hbelow (by norm_num)
        _ ≤ 2 * 10 ^ (-400 : Int) := mul_le_mul_of_nonneg_left (zpow_le_zpow_right₀ (by norm_num) (by omega)) (by norm_num)
        _ ≤ 2 * 2 ^ (-1200 : Int) := by
          rw [zpow_neg, zpow_neg]
          exact mul_le_mul_of_nonneg_left (inv_anti₀ (by positivity) height) (by norm_num)
        _ = 2 ^ (-1199 : Int) := (zpow_one_add₀ htwo (-1200)).symm
    have hmore : (2 : Rat) ^ (-1199 : Int) ≤ 2 ^ (-1074 : Int) := zpow_le_zpow_right₀ (by norm_num) (by decide)
    exact hless.not_ge hmore
  unfold ofScaled
  rw [if_neg hc]
  dsimp only
  rw [if_neg hnotHigh, if_neg hnotLow, tenScaled_eq]
  exact h

/-- What a coefficient and an exponent are read as is a rounded number. -/
theorem isRounded_ofScaled (c : Nat) (e : Int) : (ofScaled c e).IsRounded := by
  unfold ofScaled
  split
  · intro q hq
    rw [← finite.inj hq]
    exact representable_zero
  dsimp only
  split
  · nofun
  split
  · intro q hq
    rw [← finite.inj hq]
    exact representable_zero
  · exact isRounded_ofRat _

/-- Digits without a scale are rounded to what the whole number is rounded to. -/
theorem ofScaled_zero (n : Nat) : ofScaled n 0 = ofRat n := by
  rcases Nat.eq_zero_or_pos n with rfl | hn
  · rw [Nat.cast_zero]
    rfl
  have hpos : (0 : Rat) < n := Nat.cast_pos.mpr hn
  obtain ⟨e, m, -, hof⟩ := exists_rounds hpos.ne'
  rw [if_neg hpos.not_gt, decide_eq_false hpos.not_gt] at hof
  split at hof
  · -- What is rounded to infinity has either too many digits to be rounded at all, or is rounded as it is.
    rw [hof]
    unfold ofScaled
    rw [if_neg hn.ne']
    dsimp only
    split
    · rfl
    · rw [if_neg (by omega), tenScaled_eq, zpow_zero, mul_one, hof]
  · have hone : (1 : Rat) ≤ m * 2 ^ e := le_of_ofRat (@representable_intCast 1 (by decide)) (by norm_num) (by exact_mod_cast hn) hof
    rw [hof]
    exact ofScaled_eq (one_pos.trans_le hone) (representable_of_ofRat hof) (by rw [zpow_zero, mul_one, hof])

/-- The digits of a number are read as what the number is rounded to. -/
theorem ofDigitText_digits (n : Nat) : ofDigitText (digits n) = ofNat n := by
  unfold ofDigitText ofNat ofInt
  rw [ofDigits_digits, ofScaled_zero, Int.cast_natCast]

/-! ## Reading a numeral -/

/-- What does not go on with digits. -/
def StopsDigits (text : List Char) : Prop := ∀ c ∈ text.head?, ¬ c.isDigit

/-- What does not go on with a numeral. -/
def StopsNumeral (text : List Char) : Prop := ∀ c ∈ text.head?, ¬ c.isDigit ∧ c ≠ '.' ∧ c ≠ 'e' ∧ c ≠ 'E'

theorem StopsNumeral.stopsDigits {text : List Char} (h : StopsNumeral text) : StopsDigits text := fun c hc => (h c hc).1

/-- The digits before what stops them are all that are taken. -/
theorem StopsDigits.takeWhile_append {ds rest : List Char} (h : StopsDigits rest) (hds : ∀ c ∈ ds, c.isDigit) :
    (ds ++ rest).takeWhile Char.isDigit = ds := by
  rw [List.takeWhile_append_of_pos hds]
  cases rest with
  | nil => rw [List.takeWhile_nil, List.append_nil]
  | cons c rest => rw [List.takeWhile_cons_of_neg (h c rfl), List.append_nil]

/-- What is left behind the digits is what stops them. -/
theorem StopsDigits.dropWhile_append {ds rest : List Char} (h : StopsDigits rest) (hds : ∀ c ∈ ds, c.isDigit) :
    (ds ++ rest).dropWhile Char.isDigit = rest := by
  rw [List.dropWhile_append_of_pos hds]
  cases rest with
  | nil => rfl
  | cons c rest => exact List.dropWhile_cons_of_neg (h c rfl)

/-- Digits stop at a character that is none. -/
theorem stopsDigits_cons {c : Char} {text : List Char} (h : ¬ c.isDigit) : StopsDigits (c :: text) := by
  intro c' hc'
  obtain rfl : c = c' := Option.some.inj hc'
  exact h

end Number

namespace Json

open Number (ofDigits ofScaled StopsDigits StopsNumeral Representable)

variable {ds text rest : List Char}

/-- Digits are taken up to what stops them, if there is one at least. -/
theorem takeDigits1_append (hne : ds ≠ []) (hds : ∀ c ∈ ds, c.isDigit) (hstop : StopsDigits rest) :
    takeDigits1 (ds ++ rest) = some (ds, rest) := by
  unfold takeDigits1
  rw [hstop.takeWhile_append hds, hstop.dropWhile_append hds]
  dsimp only
  rw [if_neg (by simpa using hne)]

/-- Where a numeral stops it has no fraction. -/
theorem takeFraction_of_stops (h : StopsNumeral text) : takeFraction text = some ([], text) := by
  unfold takeFraction
  split
  · exact absurd rfl (h '.' rfl).2.1
  · rfl

/-- Where a numeral stops it has no exponent. -/
theorem takeScale_of_stops (h : StopsNumeral text) : takeScale text = some (0, text) := by
  unfold takeScale
  split
  · rename_i c rest
    rw [if_neg]
    rintro (rfl | rfl)
    · exact (h 'e' rfl).2.2.1 rfl
    · exact (h 'E' rfl).2.2.2 rfl
  · rfl

/-- An exponent is read with its sign. -/
theorem takeScale_exponent (exponent : Int) (h : StopsDigits rest) :
    takeScale ('e' :: (if exponent < 0 then '-' else '+') :: (Number.digits exponent.natAbs ++ rest)) = some (exponent, rest) := by
  have hdigits := takeDigits1_append (Number.digits_ne_nil exponent.natAbs) (fun _ hc => Number.isDigit_of_mem_digits hc) h
  rcases lt_or_ge exponent 0 with hneg | hpos
  · have hread : takeScale ('e' :: '-' :: (Number.digits exponent.natAbs ++ rest)) =
        (takeDigits1 (Number.digits exponent.natAbs ++ rest)).map fun read => (-(ofDigits 10 read.1 : Int), read.2) := rfl
    rw [if_pos hneg, hread, hdigits, Option.map_some]
    dsimp only
    rw [Number.ofDigits_digits, show -(exponent.natAbs : Int) = exponent by omega]
  · have hread : takeScale ('e' :: '+' :: (Number.digits exponent.natAbs ++ rest)) =
        (takeDigits1 (Number.digits exponent.natAbs ++ rest)).map fun read => ((ofDigits 10 read.1 : Int), read.2) := rfl
    rw [if_neg hpos.not_gt, hread, hdigits, Option.map_some]
    dsimp only
    rw [Number.ofDigits_digits, show (exponent.natAbs : Int) = exponent by omega]

/-- A numeral without its sign: digits with no leading zero before the point, digits after it, and an exponent. -/
structure Numeral where
  whole : List Char
  fraction : List Char
  scale : Option Int
  whole_ne_nil : whole ≠ []
  isDigit : ∀ c ∈ whole ++ fraction, c.isDigit
  leading : whole.head? = some '0' → whole.length = 1

namespace Numeral

/-- The point and the digits after it, if there are any. -/
def fractionChars : List Char → List Char
  | [] => []
  | ds => '.' :: ds

def scaleChars : Option Int → List Char
  | none => []
  | some exponent => 'e' :: (if exponent < 0 then '-' else '+') :: Number.digits exponent.natAbs

def chars (n : Numeral) : List Char := n.whole ++ (fractionChars n.fraction ++ scaleChars n.scale)

def coefficient (n : Numeral) : Nat := ofDigits 10 (n.whole ++ n.fraction)

def exponent (n : Numeral) : Int := n.scale.getD 0 - n.fraction.length

end Numeral

/-- The digits before the point stop at it, or where the numeral does. -/
theorem stopsDigits_fraction (fraction : List Char) (h : StopsDigits text) : StopsDigits (Numeral.fractionChars fraction ++ text) := by
  cases fraction with
  | nil => exact h
  | cons d ds => exact Number.stopsDigits_cons (by decide)

/-- The digits after the point stop at the exponent, or where the numeral does. -/
theorem stopsDigits_scale (scale : Option Int) (h : StopsNumeral rest) : StopsDigits (Numeral.scaleChars scale ++ rest) := by
  cases scale with
  | none => exact h.stopsDigits
  | some exponent => exact Number.stopsDigits_cons (by decide)

/-- A fraction is read back with the digits that it is printed with. -/
theorem takeFraction_chars (fraction : List Char) (scale : Option Int) (hds : ∀ c ∈ fraction, c.isDigit) (h : StopsNumeral rest) :
    takeFraction (Numeral.fractionChars fraction ++ (Numeral.scaleChars scale ++ rest)) =
      some (fraction, Numeral.scaleChars scale ++ rest) := by
  cases fraction with
  | nil =>
    cases scale with
    | none => exact takeFraction_of_stops h
    | some exponent => rfl
  | cons d ds => exact takeDigits1_append (List.cons_ne_nil d ds) hds (stopsDigits_scale scale h)

/-- An exponent is read back as it is printed. -/
theorem takeScale_chars (scale : Option Int) (h : StopsNumeral rest) :
    takeScale (Numeral.scaleChars scale ++ rest) = some (scale.getD 0, rest) := by
  cases scale with
  | none => exact takeScale_of_stops h
  | some exponent => exact takeScale_exponent exponent h.stopsDigits

/-- What stands behind the sign of a numeral is read, and the sign put before the value. -/
theorem takeUnsigned_chars (n : Numeral) (sign : Number → Number) (h : StopsNumeral rest) :
    (do
      let (whole, afterWhole) ← takeDigits1 (n.chars ++ rest)
      if whole.head? = some '0' ∧ whole.length ≠ 1 then none
      let (fraction, afterFraction) ← takeFraction afterWhole
      let (scale, rest) ← takeScale afterFraction
      return (sign (ofScaled (ofDigits 10 (whole ++ fraction)) (scale - fraction.length)), rest)) =
      some (sign (ofScaled n.coefficient n.exponent), rest) := by
  have hwholeDigits : ∀ c ∈ n.whole, c.isDigit := fun c hc => n.isDigit c (List.mem_append_left _ hc)
  have hwhole := takeDigits1_append n.whole_ne_nil hwholeDigits (stopsDigits_fraction n.fraction (stopsDigits_scale n.scale h))
  have hno : ¬ (n.whole.head? = some '0' ∧ n.whole.length ≠ 1) := fun hzero => hzero.2 (n.leading hzero.1)
  have hfraction := takeFraction_chars n.fraction n.scale (fun c hc => n.isDigit c (List.mem_append_right _ hc)) h
  have hscale := takeScale_chars n.scale h
  have hchars : n.chars ++ rest = n.whole ++ (Numeral.fractionChars n.fraction ++ (Numeral.scaleChars n.scale ++ rest)) := by
    simp only [Numeral.chars, List.append_assoc]
  simp only [hchars, hwhole, Option.bind_eq_bind, Option.bind_some, if_neg hno, hfraction, hscale]
  rfl

/-- A numeral is read as its value, with its sign. -/
theorem takeNumber_chars (n : Numeral) (negative : Bool) (h : StopsNumeral rest) :
    takeNumber ((if negative then ['-'] else []) ++ (n.chars ++ rest)) =
      some (if negative then (ofScaled n.coefficient n.exponent).neg else ofScaled n.coefficient n.exponent, rest) := by
  cases negative with
  | true => exact takeUnsigned_chars n Number.neg h
  | false =>
    refine Eq.trans ?_ (takeUnsigned_chars n id h)
    rw [if_neg Bool.false_ne_true, List.nil_append]
    unfold takeNumber
    split
    rename_i heq
    split at heq
    · rename_i more hminus
      exfalso
      obtain ⟨c, whole, hcons⟩ := List.exists_cons_of_ne_nil n.whole_ne_nil
      rw [Numeral.chars, hcons, List.append_assoc, List.append_assoc, List.cons_append, List.cons.injEq] at hminus
      have := n.isDigit c (List.mem_append_left _ (hcons ▸ .head _))
      rw [hminus.1] at this
      exact absurd this (by decide)
    · cases heq
      rfl

/-- A fraction with digits has its point. -/
theorem fractionChars_of_ne_nil (h : ds ≠ []) : Numeral.fractionChars ds = '.' :: ds := by
  cases ds with
  | nil => exact absurd rfl h
  | cons d ds => rfl

/-- The numeral of some digits with the point after the first of them. -/
def Numeral.split (ds : List Char) (point : Nat) (scale : Option Int) (hne : ds ≠ []) (hpoint : 0 < point)
    (hds : ∀ c ∈ ds, c.isDigit) (hhead : ds.head? ≠ some '0') : Numeral where
  whole := ds.take point
  fraction := ds.drop point
  scale := scale
  whole_ne_nil := by
    rw [Ne, List.take_eq_nil_iff]
    exact not_or.mpr ⟨hpoint.ne', hne⟩
  isDigit := by
    rw [List.take_append_drop]
    exact hds
  leading := by
    rw [List.head?_take, if_neg hpoint.ne']
    exact fun hzero => absurd hzero hhead

/-- Zeros are digits. -/
theorem isDigit_of_mem_zeros {count : Nat} {d : Char} (h : d ∈ List.replicate count '0') : d.isDigit := by
  rw [List.eq_of_mem_replicate h]
  rfl

/-- The numeral of some digits with zeros behind them. -/
def Numeral.padded (ds : List Char) (zeros : Nat) (hne : ds ≠ []) (hds : ∀ c ∈ ds, c.isDigit) (hhead : ds.head? ≠ some '0') :
    Numeral where
  whole := ds ++ List.replicate zeros '0'
  fraction := []
  scale := none
  whole_ne_nil := List.append_ne_nil_of_left_ne_nil hne _
  isDigit := by
    intro c hc
    rw [List.append_nil, List.mem_append] at hc
    exact hc.elim (hds c) isDigit_of_mem_zeros
  leading := by
    rw [List.head?_append_of_ne_nil _ hne]
    exact fun hzero => absurd hzero hhead

/-- The numeral of some digits with zeros between the point and them. -/
def Numeral.below (ds : List Char) (zeros : Nat) (hds : ∀ c ∈ ds, c.isDigit) : Numeral where
  whole := ['0']
  fraction := List.replicate zeros '0' ++ ds
  scale := none
  whole_ne_nil := List.cons_ne_nil _ _
  isDigit := by
    intro c hc
    rw [List.mem_append, List.mem_append, List.mem_singleton] at hc
    rcases hc with rfl | hc | hc
    · rfl
    · exact isDigit_of_mem_zeros hc
    · exact hds c hc
  leading := fun _ => rfl

/-- What is laid out is a numeral of the same value. -/
theorem exists_layout {c : Nat} (hc : c ≠ 0) (point : Int) : ∃ n : Numeral, n.chars = Number.layout (Number.digits c) point ∧
    (n.coefficient : Rat) * 10 ^ n.exponent = c * 10 ^ (point - (Number.digits c).length) := by
  have hdigits : ∀ d ∈ Number.digits c, d.isDigit := fun _ hd => Number.isDigit_of_mem_digits hd
  have hne := Number.digits_ne_nil c
  have hhead := Number.head?_digits hc
  have hof := Number.ofDigits_digits c
  unfold Number.layout
  generalize Number.digits c = written at *
  have hlength : 0 < written.length := List.length_pos_iff.mpr hne
  dsimp only
  split
  · -- A whole number, with zeros after the digits.
    rename_i hwhole
    have hexponent : ((point - written.length).toNat : Int) = point - written.length := by omega
    refine ⟨Numeral.padded written (point - written.length).toNat hne hdigits hhead, ?_, ?_⟩
    · simp [Numeral.chars, Numeral.padded, Numeral.fractionChars, Numeral.scaleChars]
    · simp only [Numeral.coefficient, Numeral.exponent, Numeral.padded, List.append_nil, Number.ofDigits_append, hof,
        Number.ofDigits_zeros, List.length_replicate, Option.getD_none, List.length_nil]
      rw [← hexponent, zpow_natCast]
      simp
  split
  · -- The point stands between the digits.
    rename_i hbetween hmiddle
    have hrest : written.drop point.toNat ≠ [] := by
      rw [Ne, List.drop_eq_nil_iff]
      omega
    refine ⟨Numeral.split written point.toNat none hne (by omega) hdigits hhead, ?_, ?_⟩
    · simp [Numeral.chars, Numeral.split, Numeral.scaleChars, fractionChars_of_ne_nil hrest, Number.withPoint]
    · simp only [Numeral.coefficient, Numeral.exponent, Numeral.split, List.take_append_drop, hof, Option.getD_none,
        List.length_drop]
      congr 2
      omega
  split
  · -- Zeros stand between the point and the digits.
    rename_i hsmall
    refine ⟨Numeral.below written (-point).toNat hdigits, ?_, ?_⟩
    · simp [Numeral.chars, Numeral.below, Numeral.scaleChars, fractionChars_of_ne_nil (List.append_ne_nil_of_right_ne_nil _ hne)]
    · have hzero : ofDigits 10 ['0'] = 0 := rfl
      simp only [Numeral.coefficient, Numeral.exponent, Numeral.below, Number.ofDigits_append, hof, Number.ofDigits_zeros, hzero,
        zero_mul, zero_add, Option.getD_none, List.length_append, List.length_replicate]
      congr 2
      omega
  · -- The point stands after the first digit, and an exponent follows.
    refine ⟨Numeral.split written 1 (some (point - 1)) hne (by decide) hdigits hhead, ?_, ?_⟩
    · by_cases hone : written.length = 1
      · have hrest : written.drop 1 = [] := by
          rw [List.drop_eq_nil_iff]
          omega
        have htake : written.take 1 = written := List.take_of_length_le hone.le
        simp [Numeral.chars, Numeral.split, Numeral.scaleChars, Numeral.fractionChars, hrest, htake, hone]
      · have hrest : written.tail ≠ [] := by
          rw [← List.drop_one, Ne, List.drop_eq_nil_iff]
          omega
        simp [Numeral.chars, Numeral.split, Numeral.scaleChars, fractionChars_of_ne_nil hrest, Number.withPoint, hone]
    · simp only [Numeral.coefficient, Numeral.exponent, Numeral.split, List.take_append_drop, hof, Option.getD_some,
        List.length_drop]
      congr 2
      omega

/-- The text of a floating-point number is read as the number. -/
theorem takeNumber_text {q : Rat} (hq : Representable q) (h : StopsNumeral rest) :
    takeNumber ((Number.finite q).text.toList ++ rest) = some (.finite q, rest) := by
  have hmagnitude : ∀ (negative : Bool) {m : Rat}, Representable m → 0 < m →
      takeNumber ((if negative then ['-'] else []) ++ (Number.layout (Number.digits (Number.shortest m).1)
        ((Number.digits (Number.shortest m).1).length + (Number.shortest m).2) ++ rest)) =
        some (if negative then .finite (-m) else .finite m, rest) := by
    intro negative m hm hpos
    obtain ⟨hne, hback⟩ := Number.shortest_spec hm hpos
    obtain ⟨n, hchars, hvalue⟩ := exists_layout hne ((Number.digits (Number.shortest m).1).length + (Number.shortest m).2)
    rw [← hchars, takeNumber_chars n negative h, Number.ofScaled_eq hpos hm]
    · rfl
    · rw [hvalue, add_sub_cancel_left, ← Number.tenScaled_eq]
      exact hback
  unfold Number.text
  dsimp only
  split
  · rename_i hzero
    subst hzero
    exact takeNumber_chars ⟨['0'], [], none, by decide, List.forall_mem_singleton.mpr rfl, by decide⟩ false h
  rename_i hne
  rw [String.toList_ofList, List.append_assoc]
  rcases lt_or_gt_of_ne hne with hneg | hpos
  · have hread := hmagnitude true hq.neg (neg_pos.mpr hneg)
    rw [if_pos hneg, if_pos hneg]
    rw [neg_neg] at hread
    exact hread
  · have hread := hmagnitude false hq hpos
    rw [if_neg hpos.not_gt, if_neg hpos.not_gt]
    exact hread

end Json

namespace Number

/-! ## The characters of numbers -/

/-- A digit, or one of the signs that stand between digits. -/
def InNumeral (c : Char) : Prop := c.isDigit ∨ c ∈ ['.', 'e', '-', '+']

variable {ds : List Char}

/-- Digits with a point among them are characters of a numeral. -/
theorem inNumeral_withPoint (hds : ∀ c ∈ ds, c.isDigit) (point : Nat) : ∀ c ∈ withPoint ds point, InNumeral c := by
  intro c hc
  rcases List.mem_append.mp hc with hc | hc
  · exact .inl (hds c (List.mem_of_mem_take hc))
  · rcases List.mem_cons.mp hc with rfl | hc
    · exact .inr (by simp)
    · exact .inl (hds c (List.mem_of_mem_drop hc))

/-- Digits that are laid out around the point, or with an exponent, are characters of a numeral. -/
theorem inNumeral_layout (hds : ∀ c ∈ ds, c.isDigit) (point : Int) : ∀ c ∈ layout ds point, InNumeral c := by
  have hzeros : ∀ (count : Nat), ∀ c ∈ List.replicate count '0', InNumeral c := fun _ _ hc => .inl (Json.isDigit_of_mem_zeros hc)
  have hdigits : ∀ c ∈ ds, InNumeral c := fun c hc => .inl (hds c hc)
  unfold layout
  dsimp only
  split
  · exact List.forall_mem_append.mpr ⟨hdigits, hzeros _⟩
  split
  · exact inNumeral_withPoint hds _
  split
  · simp only [List.forall_mem_append, List.forall_mem_cons]
    exact ⟨⟨⟨.inl rfl, .inr (by simp), nofun⟩, hzeros _⟩, hdigits⟩
  · simp only [List.forall_mem_append, List.forall_mem_cons]
    refine ⟨⟨?_, .inr (by simp), ?_, nofun⟩, fun c hc => .inl (isDigit_of_mem_digits hc)⟩
    · split
      · exact hdigits
      · exact inNumeral_withPoint hds _
    · split <;> exact .inr (by simp)

/-- A text of such characters is on one line. -/
theorem lineFeed_notMem {text : List Char} (h : ∀ c ∈ text, InNumeral c) : '\n' ∉ text := fun hmem => by
  rcases h _ hmem with hdigit | hsign
  · cases hdigit
  · exact absurd hsign (by decide)

/-- A sign may stand before a numeral. -/
theorem inNumeral_signed {text : List Char} (h : ∀ c ∈ text, InNumeral c) (negative : Prop) [Decidable negative] :
    ∀ c ∈ (if negative then ['-'] else []) ++ text, InNumeral c := by
  refine List.forall_mem_append.mpr ⟨?_, h⟩
  split
  · exact List.forall_mem_singleton.mpr (.inr (by simp))
  · nofun

/-- The text of a number is on one line. -/
theorem lineFeed_notMem_text (x : Number) : '\n' ∉ x.text.toList := by
  cases x with
  | nan => decide
  | infinite negative => cases negative <;> decide
  | finite q =>
    unfold text
    dsimp only
    split
    · decide
    · rw [String.toList_ofList]
      exact lineFeed_notMem (inNumeral_signed (inNumeral_layout (fun _ hc => isDigit_of_mem_digits hc) _) _)

/-- So is the text with a fixed count of places. -/
theorem lineFeed_notMem_fixed (x : Number) (places : Nat) : '\n' ∉ (x.fixed places).toList := by
  unfold fixed
  split
  · rename_i q
    dsimp only
    generalize (if q < 0 then -q else q) = magnitude
    by_cases hlarge : ((power 10 21 : Nat) : Rat) ≤ magnitude
    · rw [if_pos hlarge]
      exact lineFeed_notMem_text (.finite q)
    · rw [if_neg hlarge, String.toList_ofList]
      refine lineFeed_notMem (inNumeral_signed ?_ _)
      have hds : ∀ c ∈ List.replicate (places + 1 - (digits (fixedCoefficient magnitude places)).length) '0' ++
          digits (fixedCoefficient magnitude places), c.isDigit :=
        List.forall_mem_append.mpr ⟨fun _ hc => Json.isDigit_of_mem_zeros hc, fun _ hc => isDigit_of_mem_digits hc⟩
      split
      · exact fun c hc => .inl (hds c hc)
      · exact inNumeral_withPoint hds _
  · exact lineFeed_notMem_text x

end Number

end QualityGate
