/-!
# Sums and powers of counts
-/

namespace QualityGate

/-- The sum of some counts. -/
def total (counts : List Nat) : Nat := counts.foldr Nat.add 0

@[simp] theorem total_nil : total [] = 0 := rfl

@[simp] theorem total_cons (n : Nat) (counts : List Nat) : total (n :: counts) = n + total counts := rfl

/-- Two lists count together what each of them counts. -/
theorem total_append (xs ys : List Nat) : total (xs ++ ys) = total xs + total ys := by
  induction xs with
  | nil => simp
  | cons n xs ih => simp [ih, Nat.add_assoc]

/-- A base to the power of an exponent. -/
def power (base exponent : Nat) : Nat := Nat.pow base exponent

@[simp] theorem power_zero (base : Nat) : power base 0 = 1 := rfl

theorem power_pos {base : Nat} (h : 0 < base) (exponent : Nat) : 0 < power base exponent := Nat.pow_pos h

end QualityGate
