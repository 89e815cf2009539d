/-
The double nearest to a number.

The powers of two around a number decide the place of the last of its 53 binary
digits (`place`), and the double nearest to it is the nearest multiple of that
place, of two the one with even significand (`Nearest`).  Turning an integer into
a double is rounding of this kind, and so is a division
(`nearest_nearestInteger`, `exists_denotes_ofQuotient`).

A larger number has no smaller double (`Nearest.mono`).  Where the place changes
there is a power of two in between, which neither rounding passes.
-/
import Mathlib.Data.Int.Log
import Mathlib.Data.Rat.Floor
import Mathlib.Tactic.NormNum.Pow
import Mathlib.Tactic.Positivity
import SimReport.Proofs.Binary64.Rounding

namespace SimReport
namespace Binary64

/-- A finite double with the given sign and, as its exact magnitude, `y`. -/
def Denotes (x : Binary64) (negative : Bool) (y : ℚ) : Prop :=
  ∃ (significand : Nat) (exponent : Int), x = .finite negative significand exponent ∧
    significand < 2 ^ 53 ∧ -1074 ≤ exponent ∧ exponent ≤ 971 ∧ y = significand * 2 ^ exponent

namespace Denotes

variable {x : Binary64} {negative : Bool} {y y' : ℚ}

theorem nonneg (h : x.Denotes negative y) : 0 ≤ y := by
  obtain ⟨significand, exponent, -, -, -, -, rfl⟩ := h
  positivity

theorem unique (h : x.Denotes negative y) (h' : x.Denotes negative y') : y = y' := by
  obtain ⟨significand, exponent, rfl, -, -, -, rfl⟩ := h
  obtain ⟨_, _, heq, -, -, -, rfl⟩ := h'
  cases heq
  rfl

end Denotes

/-- The exponent of the last of the 53 binary digits of a number.  No double has digits below
that of the least. -/
def place (x : ℚ) : Int := max (Int.log 2 x - 52) (-1074)

/-- The value of the double nearest to a number, which is not too large for one. -/
def Nearest (x y : ℚ) : Prop :=
  ∃ significand : Nat, y = significand * 2 ^ place x ∧ NearestEven (x / 2 ^ place x) significand

theorem two_pow_mul_zpow (k : Nat) (exponent : Int) :
    (2 : ℚ) ^ k * 2 ^ exponent = 2 ^ (exponent + k) := by
  rw [zpow_add₀ two_ne_zero, zpow_natCast, mul_comm]

/-! ## Places -/

variable {x y : ℚ}

theorem log_eq {e : Int} (hlow : (2 : ℚ) ^ e ≤ x) (hhigh : x < 2 ^ (e + 1)) : Int.log 2 x = e := by
  have hx : 0 < x := (zpow_pos two_pos e).trans_le hlow
  have hle := (Int.zpow_le_iff_le_log Nat.one_lt_two hx).mp (by exact_mod_cast hlow)
  have hlt := (Int.lt_zpow_iff_log_lt Nat.one_lt_two hx).mp (by exact_mod_cast hhigh)
  omega

theorem place_mono (hx : 0 < x) (h : x ≤ y) : place x ≤ place y := by
  have hlog := Int.log_mono_right (b := 2) hx h
  unfold place
  omega

theorem div_place_le (x : ℚ) : x / 2 ^ place x ≤ 2 ^ 53 := by
  have hlog : x < (2 : ℚ) ^ (Int.log 2 x + 1) := by
    exact_mod_cast Int.lt_zpow_succ_log_self Nat.one_lt_two x
  have hplace : Int.log 2 x - 52 ≤ place x := le_max_left _ _
  rw [div_le_iff₀ (zpow_pos two_pos _), two_pow_mul_zpow]
  exact hlog.le.trans (zpow_le_zpow_right₀ one_le_two (by omega))

/-- The quotient has 53 digits unless the place is that of the least double. -/
theorem le_div_place (hx : 0 < x) (h : place x = Int.log 2 x - 52) : 2 ^ 52 ≤ x / 2 ^ place x := by
  have hlog : (2 : ℚ) ^ Int.log 2 x ≤ x := by
    exact_mod_cast Int.zpow_log_le_self Nat.one_lt_two hx
  rw [le_div_iff₀ (zpow_pos two_pos _), two_pow_mul_zpow, h]
  exact (zpow_le_zpow_right₀ one_le_two (by omega)).trans hlog

/-! ## The nearest double -/

namespace Nearest

theorem nonneg (h : Nearest x y) : 0 ≤ y := by
  obtain ⟨m, rfl, -⟩ := h
  positivity

theorem eq_zero (h : Nearest 0 y) : y = 0 := by
  obtain ⟨m, rfl, hm⟩ := h
  rw [zero_div] at hm
  rw [hm.eq_zero one_half_pos, Nat.cast_zero, zero_mul]

/-- A multiple of its own place is its own double. -/
theorem of_exact {m : Nat} (h : x = m * 2 ^ place x) : Nearest x x := by
  refine ⟨m, h, ?_⟩
  have hquotient : x / 2 ^ place x = m := by
    rw [div_eq_iff (zpow_pos two_pos _).ne']
    exact h
  rw [hquotient]
  exact NearestEven.natCast m

theorem mono {x' y' : ℚ} (h : Nearest x y) (h' : Nearest x' y') (hx : 0 ≤ x) (hle : x ≤ x') :
    y ≤ y' := by
  obtain rfl | hpos := hx.eq_or_lt
  · rw [h.eq_zero]
    exact h'.nonneg
  obtain ⟨m, rfl, hm⟩ := h
  obtain ⟨m', rfl, hm'⟩ := h'
  obtain hsame | hlt := (place_mono hpos hle).eq_or_lt
  · rw [← hsame] at hm' ⊢
    have hdiv := div_le_div_of_nonneg_right hle (zpow_pos two_pos (place x)).le
    have hnat : (m : ℚ) ≤ m' := by exact_mod_cast hm.mono hm' hdiv
    exact mul_le_mul_of_nonneg_right hnat (zpow_pos two_pos _).le
  · -- `2 ^ (place x' + 52)` stands between the two.
    have hplace : place x' = Int.log 2 x' - 52 := by
      have hleast : -1074 ≤ place x := le_max_right _ _
      unfold place at hlt hleast ⊢
      omega
    have hhigh : m ≤ 2 ^ 53 := by
      refine hm.mono (NearestEven.natCast _) ?_
      exact_mod_cast div_place_le x
    have hlow : 2 ^ 52 ≤ m' := by
      refine (NearestEven.natCast _).mono hm' ?_
      exact_mod_cast le_div_place (hpos.trans_le hle) hplace
    calc (m : ℚ) * 2 ^ place x ≤ 2 ^ 53 * 2 ^ place x := by
          refine mul_le_mul_of_nonneg_right ?_ (zpow_pos two_pos _).le
          exact_mod_cast hhigh
      _ = 2 ^ (place x + 53) := two_pow_mul_zpow 53 _
      _ ≤ 2 ^ (place x' + 52) := zpow_le_zpow_right₀ one_le_two (by omega)
      _ = 2 ^ 52 * 2 ^ place x' := (two_pow_mul_zpow 52 _).symm
      _ ≤ m' * 2 ^ place x' := by
          refine mul_le_mul_of_nonneg_right ?_ (zpow_pos two_pos _).le
          exact_mod_cast hlow

/-- Rounding moves a number that has 53 digits by at most one part in 2 ^ 53. -/
theorem error (h : Nearest x y) (hx : (2 : ℚ) ^ (-1022 : Int) ≤ x) : |y - x| ≤ x / 2 ^ 53 := by
  have hpos : 0 < x := (zpow_pos two_pos _).trans_le hx
  have hplace : place x = Int.log 2 x - 52 := by
    have hlog := (Int.zpow_le_iff_le_log Nat.one_lt_two hpos).mp (by exact_mod_cast hx)
    unfold place
    omega
  obtain ⟨m, rfl, hm⟩ := h
  have hunit : (0 : ℚ) < 2 ^ place x := zpow_pos two_pos _
  have hdigits := le_div_place hpos hplace
  have hnear := hm.1
  generalize (2 : ℚ) ^ place x = unit at hunit hdigits hnear ⊢
  rw [le_div_iff₀ hunit] at hdigits
  have hscaled : m * unit - x = -(x / unit - m) * unit := by
    field_simp
    ring
  calc |m * unit - x| = |x / unit - m| * unit := by
        rw [hscaled, abs_mul, abs_neg, abs_of_pos hunit]
    _ ≤ 1 / 2 * unit := mul_le_mul_of_nonneg_right hnear hunit.le
    _ ≤ x / 2 ^ 53 := by linarith

end Nearest

/-! ## Integers -/

theorem log_natCast (n : Nat) : Int.log 2 (n : ℚ) = n.log2 := by
  rw [Int.log_natCast, Nat.log2_eq_log_two]

theorem nearestInteger_of_log_le {n : Nat} (h : n.log2 ≤ 52) : nearestInteger n = n := by
  have hunit : n.log2 - 52 = 0 := by omega
  simp [nearestInteger, hunit]

/-- Integers of at most 53 digits are doubles. -/
theorem nearestInteger_of_lt {n : Nat} (h : n < 2 ^ 53) : nearestInteger n = n := by
  obtain rfl | hn := eq_or_ne n 0
  · exact nearestInteger_of_log_le (by decide)
  · exact nearestInteger_of_log_le (Nat.le_of_lt_succ ((Nat.log2_lt hn).mpr h))

theorem nearest_nearestInteger (n : Nat) : Nearest n (nearestInteger n) := by
  have hplace : place n = n.log2 - 52 := by
    have hlog := log_natCast n
    unfold place
    omega
  by_cases hlog : n.log2 ≤ 52
  · -- All digits of the number stand above its place, or at it.
    obtain ⟨k, hk⟩ : ∃ k : Nat, place n = -k := ⟨52 - n.log2, by omega⟩
    rw [nearestInteger_of_log_le hlog]
    refine Nearest.of_exact (m := n * 2 ^ k) ?_
    rw [hk, zpow_neg, zpow_natCast]
    push_cast
    rw [mul_assoc, mul_inv_cancel₀ (by positivity), mul_one]
  · obtain ⟨k, hk⟩ : ∃ k, n.log2 = 52 + k := Nat.exists_eq_add_of_le (not_le.mp hlog).le
    have hunit : (2 : ℚ) ^ place n = (2 ^ k : Nat) := by
      rw [hplace, hk, show ((52 + k : Nat) : Int) - 52 = k by omega, zpow_natCast]
      push_cast
      rfl
    have hvalue : nearestInteger n = roundHalfEven n (2 ^ k) * 2 ^ k := by
      unfold nearestInteger
      rw [hk, Nat.add_sub_cancel_left]
      rfl
    refine ⟨roundHalfEven n (2 ^ k), ?_, ?_⟩
    · rw [hunit, hvalue, Nat.cast_mul]
    · rw [hunit]
      exact nearestEven_roundHalfEven n (Nat.two_pow_pos k)

theorem nearestInteger_mono {m n : Nat} (h : m ≤ n) : nearestInteger m ≤ nearestInteger n := by
  have hcast : (nearestInteger m : ℚ) ≤ nearestInteger n :=
    (nearest_nearestInteger m).mono (nearest_nearestInteger n) (Nat.cast_nonneg m)
      (by exact_mod_cast h)
  exact_mod_cast hcast

theorem nearestInteger_pos {n : Nat} (h : 0 < n) : 0 < nearestInteger n := by
  have hone : nearestInteger 1 = 1 := nearestInteger_of_lt (by norm_num)
  have hle := nearestInteger_mono (show 1 ≤ n from h)
  omega

theorem nearestInteger_le {n : Nat} (h : n ≤ 2 ^ 64) : nearestInteger n ≤ 2 ^ 64 := by
  have hlast : nearestInteger (2 ^ 64) = 2 ^ 64 := by decide +kernel
  rw [← hlast]
  exact nearestInteger_mono h

/-! ## Quotients -/

/-- The logarithms of its parts leave two powers of two for the binade of a quotient. -/
theorem quotient_bounds {num den : Nat} (hnum : 0 < num) (hden : 0 < den) :
    (2 : ℚ) ^ ((num.log2 : Int) - den.log2 - 1) < num / den ∧
      (num / den : ℚ) < 2 ^ ((num.log2 : Int) - den.log2 + 1) := by
  have hn : (0 : ℚ) < num := by exact_mod_cast hnum
  have hd : (0 : ℚ) < den := by exact_mod_cast hden
  have hnlow : (2 : ℚ) ^ num.log2 ≤ num := by exact_mod_cast Nat.log2_self_le hnum.ne'
  have hdlow : (2 : ℚ) ^ den.log2 ≤ den := by exact_mod_cast Nat.log2_self_le hden.ne'
  have hnhigh : (num : ℚ) < 2 ^ num.log2 * 2 := by exact_mod_cast Nat.lt_log2_self
  have hdhigh : (den : ℚ) < 2 ^ den.log2 * 2 := by exact_mod_cast Nat.lt_log2_self
  rw [zpow_sub_one₀ two_ne_zero, zpow_add_one₀ two_ne_zero, zpow_sub₀ two_ne_zero, zpow_natCast,
    zpow_natCast, ← div_eq_mul_inv, div_div, div_mul_eq_mul_div]
  constructor
  · rw [div_lt_div_iff₀ (by positivity) hd]
    calc (2 : ℚ) ^ num.log2 * den < 2 ^ num.log2 * (2 ^ den.log2 * 2) :=
          mul_lt_mul_of_pos_left hdhigh (by positivity)
      _ ≤ num * (2 ^ den.log2 * 2) := mul_le_mul_of_nonneg_right hnlow (by positivity)
  · rw [div_lt_div_iff₀ hd (by positivity)]
    calc (num : ℚ) * 2 ^ den.log2 ≤ num * den := mul_le_mul_of_nonneg_left hdlow hn.le
      _ < 2 ^ num.log2 * 2 * den := mul_lt_mul_of_pos_right hnhigh hd

theorem scaleDown_le_iff (num : Nat) {den : Nat} (hden : 0 < den) (exponent : Int) :
    (scaleDown num den exponent).2 ≤ (scaleDown num den exponent).1 ↔
      (2 : ℚ) ^ exponent ≤ num / den := by
  have hpos : (0 : ℚ) < (scaleDown num den exponent).2 := by
    exact_mod_cast scaleDown_den_pos num hden exponent
  rw [← one_le_div₀ (zpow_pos two_pos exponent), ← scaleDown_div, one_le_div₀ hpos]
  exact Nat.cast_le.symm

theorem lastPlace_eq {num den : Nat} (hnum : 0 < num) (hden : 0 < den) :
    lastPlace num den = place (num / den) := by
  obtain ⟨hlow, hhigh⟩ := quotient_bounds hnum hden
  have hscaled := scaleDown_le_iff num hden (num.log2 - den.log2)
  unfold lastPlace place
  dsimp only
  generalize (num.log2 : Int) - den.log2 = guess at hlow hhigh hscaled ⊢
  split
  · next h => rw [log_eq (hscaled.mp h) hhigh]
  · next h =>
    rw [hscaled, not_le] at h
    rw [log_eq hlow.le (by rw [sub_add_cancel]; exact h)]
    omega

/-- A division gives a finite double without a sign, the one nearest to the quotient, unless the
quotient is about as large as doubles get. -/
theorem exists_denotes_ofQuotient {num den : Nat} (hden : 0 < den)
    (hsmall : (num / den : ℚ) < 2 ^ (1023 : Int)) :
    ∃ y, (ofQuotient num den).Denotes false y ∧ Nearest (num / den) y := by
  obtain rfl | hnum := Nat.eq_zero_or_pos num
  · refine ⟨0, ⟨0, -1074, by simp [ofQuotient, zero], by norm_num⟩, 0, by simp, ?_⟩
    simpa using NearestEven.natCast 0
  have hx : (0 : ℚ) < num / den := by
    have hn : (0 : ℚ) < num := by exact_mod_cast hnum
    have hd : (0 : ℚ) < den := by exact_mod_cast hden
    positivity
  have hnearest := nearestEven_scaleDown num hden (lastPlace num den)
  rw [lastPlace_eq hnum hden] at hnearest
  have hlarge : roundHalfEven (scaleDown num den (place (num / den))).1
      (scaleDown num den (place (num / den))).2 ≤ 2 ^ 53 := by
    refine hnearest.mono (NearestEven.natCast _) ?_
    exact_mod_cast div_place_le _
  have hleast : -1074 ≤ place (num / den : ℚ) := le_max_right _ _
  have hgreatest : place (num / den : ℚ) < 971 := by
    have hlog : Int.log 2 (num / den : ℚ) < 1023 := by
      refine (Int.lt_zpow_iff_log_lt Nat.one_lt_two hx).mp ?_
      exact_mod_cast hsmall
    unfold place
    omega
  refine ⟨_, ?_, _, rfl, hnearest⟩
  unfold ofQuotient
  rw [lastPlace_eq hnum hden]
  dsimp only
  rw [if_neg hnum.ne']
  generalize roundHalfEven (scaleDown num den (place (num / den))).1
    (scaleDown num den (place (num / den))).2 = m at hlarge ⊢
  by_cases hm : m = Nat.pow 2 53
  · rw [if_pos hm, if_pos hgreatest]
    refine ⟨2 ^ 52, _, rfl, by norm_num, by omega, by omega, ?_⟩
    -- The significand was rounded up to a power of two.
    rw [hm, zpow_add_one₀ two_ne_zero, Nat.pow_eq]
    push_cast
    ring
  · rw [if_neg hm, if_pos hgreatest.le]
    exact ⟨m, _, rfl, lt_of_le_of_ne hlarge hm, hleast, hgreatest.le, rfl⟩

end Binary64
end SimReport
