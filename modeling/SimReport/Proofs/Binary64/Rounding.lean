/-
Rounding to the nearest integer, where a tie goes to the even one.

`roundHalfEven` divides naturals and looks at the remainder.  Of the exact
quotient it is said here that no integer is nearer and that a tie gives an even
one (`NearestEven`).  A quotient has one such integer, and a larger quotient has
none that is smaller (`NearestEven.mono`).
-/
import Mathlib.Algebra.Order.Field.Power
import Mathlib.Algebra.Order.Ring.Rat
import Mathlib.Tactic.Linarith
import Mathlib.Tactic.Ring
import SimReport.Binary64

namespace SimReport

/-- The integer nearest to a number, of two equally near the even one. -/
def NearestEven (x : ℚ) (n : Nat) : Prop :=
  |x - n| ≤ 1 / 2 ∧ (|x - n| = 1 / 2 → Even n)

namespace NearestEven

theorem natCast (n : Nat) : NearestEven n n := by
  constructor <;> simp

theorem bounds {x : ℚ} {n : Nat} (h : NearestEven x n) : (n : ℚ) - 1 / 2 ≤ x ∧ x ≤ n + 1 / 2 := by
  obtain ⟨hlow, hhigh⟩ := abs_le.mp h.1
  constructor <;> linarith

theorem mono {x y : ℚ} {m n : Nat} (hm : NearestEven x m) (hn : NearestEven y n) (h : x ≤ y) :
    m ≤ n := by
  by_contra hlt
  have hstep : (n : ℚ) + 1 ≤ m := by exact_mod_cast Nat.not_le.mp hlt
  have hx := hm.bounds.1
  have hy := hn.bounds.2
  -- Only a tie between the two is left, and neighbours are not both even.
  have hnext : m = n + 1 := by
    have hcast : (m : ℚ) = n + 1 := by linarith
    exact_mod_cast hcast
  have hlow : x - m = -(1 / 2) := by linarith
  have hhigh : y - n = 1 / 2 := by linarith
  have heven : Even m := hm.2 (by rw [hlow]; norm_num)
  have heven' : Even n := hn.2 (by rw [hhigh]; norm_num)
  rw [hnext] at heven
  exact Nat.even_add_one.mp heven heven'

theorem eq_zero {x : ℚ} {n : Nat} (h : NearestEven x n) (hx : x < 1 / 2) : n = 0 := by
  have hn : (n : ℚ) < 1 := by linarith [h.bounds.1]
  exact Nat.lt_one_iff.mp (by exact_mod_cast hn)

end NearestEven

/-! ## Division -/

/-- A quotient in the middle between two integers is an odd number of halves. -/
theorem exists_odd_of_tie {num den n : Nat} (hden : 0 < den)
    (h : |(num / den - n : ℚ)| = 1 / 2) : ∃ k, 2 * num = (2 * k + 1) * den := by
  have hpos : (0 : ℚ) < den := by exact_mod_cast hden
  rw [abs_eq (by norm_num), sub_eq_iff_eq_add, sub_eq_iff_eq_add, div_eq_iff hpos.ne',
    div_eq_iff hpos.ne'] at h
  rcases h with h | h
  · refine ⟨n, ?_⟩
    have hcast : (2 * num : ℚ) = (2 * n + 1) * den := by linarith
    exact_mod_cast hcast
  · -- The quotient lies half below `n`, which is not zero then.
    have hcast : (2 * num + den : ℚ) = 2 * n * den := by linarith
    have hnat : 2 * num + den = 2 * n * den := by exact_mod_cast hcast
    obtain _ | k := n
    · omega
    · exact ⟨k, by linarith⟩

theorem two_mul_mod_of_odd {num den k : Nat} (h : 2 * num = (2 * k + 1) * den) (hden : 0 < den) :
    2 * (num % den) = den := by
  have hrem : 2 * (num % den) = (2 * num) % (2 * den) := (Nat.mul_mod_mul_left 2 num den).symm
  rw [hrem, h, show (2 * k + 1) * den = den + 2 * den * k by ring, Nat.add_mul_mod_self_left,
    Nat.mod_eq_of_lt (by omega)]

theorem nearestEven_roundHalfEven (num : Nat) {den : Nat} (h : 0 < den) :
    NearestEven (num / den) (roundHalfEven num den) := by
  have hden : (0 : ℚ) < den := by exact_mod_cast h
  obtain ⟨hlow, hhigh⟩ := roundHalfEven_near num h
  constructor
  · have hlow' : (2 * num : ℚ) ≤ 2 * (roundHalfEven num den * den) + den := by
      exact_mod_cast hlow
    have hhigh' : (2 * (roundHalfEven num den * den) : ℚ) ≤ 2 * num + den := by
      exact_mod_cast hhigh
    rw [abs_le, le_sub_iff_add_le, sub_le_iff_le_add, le_div_iff₀ hden, div_le_iff₀ hden]
    constructor <;> linarith
  · intro htie
    obtain ⟨k, hk⟩ := exists_odd_of_tie h htie
    exact Nat.even_iff.mpr (roundHalfEven_even_of_tie (two_mul_mod_of_odd hk h))

/-! ## Scaling by a power of two -/

theorem scaleDown_den_pos (num : Nat) {den : Nat} (h : 0 < den) (exponent : Int) :
    0 < (scaleDown num den exponent).2 := by
  unfold scaleDown
  split
  · exact Nat.mul_pos h (Nat.two_pow_pos _)
  · exact h

theorem scaleDown_div (num den : Nat) (exponent : Int) :
    ((scaleDown num den exponent).1 : ℚ) / (scaleDown num den exponent).2 =
      num / den / 2 ^ exponent := by
  unfold scaleDown
  split
  · next h =>
    obtain ⟨k, rfl⟩ := Int.eq_ofNat_of_zero_le h
    rw [Int.toNat_natCast, zpow_natCast, Nat.pow_eq, div_div]
    push_cast
    rfl
  · next h =>
    obtain ⟨k, hk⟩ := Int.eq_ofNat_of_zero_le (show 0 ≤ -exponent by omega)
    obtain rfl : exponent = -k := by omega
    rw [neg_neg, Int.toNat_natCast, zpow_neg, zpow_natCast, div_inv_eq_mul, Nat.pow_eq]
    push_cast
    ring

theorem nearestEven_scaleDown (num : Nat) {den : Nat} (h : 0 < den) (exponent : Int) :
    NearestEven (num / den / 2 ^ exponent)
      (roundHalfEven (scaleDown num den exponent).1 (scaleDown num den exponent).2) := by
  rw [← scaleDown_div]
  exact nearestEven_roundHalfEven _ (scaleDown_den_pos num h exponent)

end SimReport
