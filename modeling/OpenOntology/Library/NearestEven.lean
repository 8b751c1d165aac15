import Mathlib.Tactic

/-!
# Integers in a binary floating-point format

What an integer becomes in a format of `p` significant bits that rounds to nearest, ties
to even. Up to `2 ^ p` it stays itself; from there on every value is even.
-/
namespace OpenOntology.Library

/-- The quotient by `2 ^ e`, rounded to nearest, ties to even. -/
def roundedQuotient (m e : Nat) : Nat :=
  let q := m / 2 ^ e
  let r := m % 2 ^ e
  if 2 ^ e < 2 * r ∨ (2 * r = 2 ^ e ∧ q % 2 = 1) then q + 1 else q

/-- How many low bits of `m` lie beyond `p` significant ones. -/
def excessBits (p m : Nat) : Nat := Nat.log2 m + 1 - p

def nearestEvenNat (p m : Nat) : Nat :=
  roundedQuotient m (excessBits p m) * 2 ^ excessBits p m

def nearestEven (p : Nat) : Int → Int
  | .ofNat m => nearestEvenNat p m
  | .negSucc m => -(nearestEvenNat p (m + 1) : Int)

theorem excessBits_eq_zero {p m : Nat} (bits : 0 < p) (small : m < 2 ^ p) :
    excessBits p m = 0 := by
  unfold excessBits
  rcases Nat.eq_zero_or_pos m with rfl | positive
  · rw [Nat.log2_zero]
    omega
  · have bits : Nat.log2 m < p := (Nat.log2_lt (by omega)).mpr small
    omega

theorem excessBits_pos {p m : Nat} (large : 2 ^ p ≤ m) : 0 < excessBits p m := by
  have positive : m ≠ 0 := by
    have := Nat.two_pow_pos p
    omega
  have bits : p ≤ Nat.log2 m := (Nat.le_log2 positive).mpr large
  unfold excessBits
  omega

theorem nearestEvenNat_of_lt {p m : Nat} (bits : 0 < p) (small : m < 2 ^ p) :
    nearestEvenNat p m = m := by
  unfold nearestEvenNat roundedQuotient
  rw [excessBits_eq_zero bits small]
  simp [Nat.mod_one]

theorem nearestEvenNat_two_pow {p : Nat} (bits : 0 < p) : nearestEvenNat p (2 ^ p) = 2 ^ p := by
  obtain ⟨p, rfl⟩ := Nat.exists_eq_add_of_lt bits
  rw [Nat.zero_add]
  have excess : excessBits (p + 1) (2 ^ (p + 1)) = 1 := by
    unfold excessBits
    rw [Nat.log2_two_pow]
    omega
  unfold nearestEvenNat roundedQuotient
  rw [excess]
  simp [pow_succ]

theorem nearestEvenNat_even {p m : Nat} (large : 2 ^ p ≤ m) : nearestEvenNat p m % 2 = 0 := by
  obtain ⟨e, excess⟩ := Nat.exists_eq_add_of_lt (excessBits_pos large)
  unfold nearestEvenNat
  rw [excess, Nat.zero_add, pow_succ, ← mul_assoc, Nat.mul_mod_left]

theorem le_nearestEvenNat {p m : Nat} (bits : 0 < p) (large : 2 ^ p ≤ m) :
    2 ^ p ≤ nearestEvenNat p m := by
  have positive : m ≠ 0 := by
    have := Nat.two_pow_pos p
    omega
  have length : p ≤ Nat.log2 m := (Nat.le_log2 positive).mpr large
  have quotient : m / 2 ^ excessBits p m ≤ roundedQuotient m (excessBits p m) := by
    unfold roundedQuotient
    dsimp only
    split
    · exact Nat.le_succ _
    · exact le_rfl
  have leading : 2 ^ (p - 1) ≤ m / 2 ^ excessBits p m := by
    rw [Nat.le_div_iff_mul_le (Nat.two_pow_pos _), ← pow_add]
    have exponent : p - 1 + excessBits p m = Nat.log2 m := by
      unfold excessBits
      omega
    rw [exponent]
    exact Nat.log2_self_le positive
  calc 2 ^ p ≤ 2 ^ (p - 1 + excessBits p m) := by
        refine Nat.pow_le_pow_right (by omega) ?_
        have := excessBits_pos large
        omega
    _ = 2 ^ (p - 1) * 2 ^ excessBits p m := pow_add ..
    _ ≤ nearestEvenNat p m := Nat.mul_le_mul_right _ (leading.trans quotient)

/-- An integer of at most `2 ^ p` is a number of the format. -/
theorem nearestEven_of_le {p : Nat} {n : Int} (bits : 0 < p) (nonneg : 0 ≤ n)
    (small : n ≤ 2 ^ p) : nearestEven p n = n := by
  obtain ⟨m, rfl⟩ := Int.eq_ofNat_of_zero_le nonneg
  have small : m ≤ 2 ^ p := by exact_mod_cast small
  show ((nearestEvenNat p m : Nat) : Int) = m
  rcases Nat.lt_or_eq_of_le small with less | rfl
  · rw [nearestEvenNat_of_lt bits less]
  · rw [nearestEvenNat_two_pow bits]

theorem le_nearestEven {p : Nat} {n : Int} (bits : 0 < p) (large : 2 ^ p ≤ n) :
    2 ^ p ≤ nearestEven p n := by
  have positive : (0 : Int) < 2 ^ p := by positivity
  obtain ⟨m, rfl⟩ := Int.eq_ofNat_of_zero_le (positive.le.trans large)
  have large : 2 ^ p ≤ m := by exact_mod_cast large
  show (2 ^ p : Int) ≤ ((nearestEvenNat p m : Nat) : Int)
  exact_mod_cast le_nearestEvenNat bits large

theorem nearestEven_nonpos {p : Nat} {n : Int} (nonpos : n ≤ 0) : nearestEven p n ≤ 0 := by
  rcases n with (- | m) | m
  · simp [nearestEven, nearestEvenNat, roundedQuotient]
  · have nonpos : ((m + 1 : Nat) : Int) ≤ 0 := nonpos
    omega
  · show -((nearestEvenNat p (m + 1) : Nat) : Int) ≤ 0
    omega

/-- A value of the format that reaches `2 ^ p` is even. -/
theorem nearestEven_even {p : Nat} {n : Int} (bits : 0 < p) (large : 2 ^ p ≤ nearestEven p n) :
    nearestEven p n % 2 = 0 := by
  have positive : (0 : Int) < 2 ^ p := by positivity
  rcases n with m | m
  · show ((nearestEvenNat p m : Nat) : Int) % 2 = 0
    have large : (2 ^ p : Int) ≤ (nearestEvenNat p m : Nat) := large
    rcases Nat.lt_or_ge m (2 ^ p) with small | at_least
    · rw [nearestEvenNat_of_lt bits small] at large
      have : 2 ^ p ≤ m := by exact_mod_cast large
      omega
    · have := nearestEvenNat_even at_least
      omega
  · have large : (2 ^ p : Int) ≤ -((nearestEvenNat p (m + 1) : Nat) : Int) := large
    omega

end OpenOntology.Library
