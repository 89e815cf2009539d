/-
What is printed of the 64 bits of a double.

The bits are a sign, an exponent of eleven bits and a fraction of 52 bits.  A
number is read from them as the format defines it, as a power of two times one
and a fraction, or times the fraction alone if the exponent is zero
(`exactMagnitude`).  That is the number which the program decodes to a
significand and the power of two of its last place (`denotes_ofBits`).

Of each finite number the text is the sign, an integer without a zero in front,
and two decimals.  They are decided by the exact magnitude: the hundredths are
the nearest, of two equally near the even ones, so no digit of the 309 of the
largest double and no place of the smallest is lost on the way (`toFixed_ofBits`).
-/
import SimReport.Proofs.Binary64.Fixed

namespace SimReport

/-! ## Text -/

/-- A zero in front of an integer part is the whole of it. -/
def Text.IsPlain (t : Text) : Prop := t.head? = some '0' → t[1]? = some '.'

instance (t : Text) : Decidable t.IsPlain :=
  inferInstanceAs (Decidable (t.head? = some '0' → t[1]? = some '.'))

theorem Binary64.isPlain_pointed (n : Nat) : (pointed n).IsPlain := by
  intro hzero
  rw [pointed, List.head?_append_of_ne_nil (Text.ofNat (n / 100)) Nat.toDigits_ne_nil] at hzero
  have hwhole : n / 100 = 0 := by
    by_contra hne
    exact Text.head?_ofNat hne hzero
  rw [pointed, hwhole]
  rfl

/-- The middle between two integers is a tie, whichever of them is taken. -/
theorem NearestEven.even_of_middle {x : ℚ} {n : Nat} (h : NearestEven x n) {k : Int}
    (hk : x = k + 1 / 2) : Even n := by
  obtain ⟨hlow, hhigh⟩ := h.bounds
  rw [hk] at hlow hhigh
  have hle : (n : ℚ) ≤ k + 1 := by linarith
  have hge : (k : ℚ) ≤ n := by linarith
  have hle' : (n : Int) ≤ k + 1 := by exact_mod_cast hle
  have hge' : k ≤ n := by exact_mod_cast hge
  refine h.2 ?_
  obtain hsame | hnext : (n : Int) = k ∨ (n : Int) = k + 1 := by omega
  · have hcast : (n : ℚ) = k := by exact_mod_cast hsame
    rw [hk, hcast, add_sub_cancel_left, abs_of_pos one_half_pos]
  · have hcast : (n : ℚ) = k + 1 := by exact_mod_cast hnext
    rw [hk, hcast, show ((k : ℚ) + 1 / 2 - (k + 1)) = -(1 / 2) by ring, abs_neg,
      abs_of_pos one_half_pos]

namespace Binary64

/-! ## Bits -/

def isNegative (bits : UInt64) : Bool := bits.toNat.testBit 63

def exponentField (bits : UInt64) : Nat := bits.toNat / 2 ^ 52 % 2 ^ 11

def fractionField (bits : UInt64) : Nat := bits.toNat % 2 ^ 52

/-- The exact magnitude that the bits of a finite double stand for. -/
def exactMagnitude (bits : UInt64) : ℚ :=
  if exponentField bits = 0 then 2 ^ (-1022 : Int) * (fractionField bits / 2 ^ 52)
  else 2 ^ ((exponentField bits : Int) - 1023) * (1 + fractionField bits / 2 ^ 52)

theorem isNegative_eq (bits : UInt64) :
    isNegative bits = (bits.toNat / Nat.pow 2 63 == 1) := by
  have hbits := bits.toNat_lt
  have htop : bits.toNat / 2 ^ 63 % 2 = bits.toNat / 2 ^ 63 := by omega
  rw [isNegative, Nat.testBit_eq_decide_div_mod_eq, htop]
  rfl

theorem ofBits_eq (bits : UInt64) :
    ofBits bits =
      if exponentField bits = 2047 then
        (if fractionField bits = 0 then .infinite (isNegative bits) else .nan)
      else if exponentField bits = 0 then
        .finite (isNegative bits) (fractionField bits) (-1074)
      else
        .finite (isNegative bits) (2 ^ 52 + fractionField bits) (exponentField bits - 1075) := by
  rw [isNegative_eq]
  rfl

/-- The bits of a finite double are read as their exact magnitude. -/
theorem denotes_ofBits {bits : UInt64} (h : exponentField bits ≠ 2047) :
    (ofBits bits).Denotes (isNegative bits) (exactMagnitude bits) := by
  have hfraction : fractionField bits < 2 ^ 52 := Nat.mod_lt _ (by decide)
  have hexponent : exponentField bits < 2 ^ 11 := Nat.mod_lt _ (by decide)
  rw [ofBits_eq, if_neg h, exactMagnitude]
  split
  · refine ⟨fractionField bits, -1074, rfl, by omega, by omega, by omega, ?_⟩
    rw [show (-1022 : Int) = -1074 + (52 : Nat) by rfl, ← two_pow_mul_zpow]
    ring
  · refine ⟨2 ^ 52 + fractionField bits, exponentField bits - 1075, rfl, by omega, by omega,
      by omega, ?_⟩
    rw [show (exponentField bits : Int) - 1023 = exponentField bits - 1075 + (52 : Nat) by omega,
      ← two_pow_mul_zpow]
    push_cast
    ring

/-! ## What is printed -/

/-- The text says `n` hundredths behind its sign, and they are those of `y`. -/
structure Prints (t : Text) (negative : Bool) (y : ℚ) (n : Nat) : Prop where
  form : ∃ digits : Text, t = (if negative then '-' :: digits else digits) ∧
    digits.IsHundredths n ∧ digits.IsPlain
  near : |100 * y - n| ≤ 1 / 2
  even : ∀ k : Int, 100 * y = k + 1 / 2 → Even n

theorem exists_prints_of_denotes {x : Binary64} {negative : Bool} {y : ℚ}
    (h : x.Denotes negative y) : ∃ n, Prints x.toFixed negative y n := by
  obtain ⟨n, htext, hnear⟩ := toFixed_of_denotes h
  refine ⟨n, ⟨pointed n, ?_, isHundredths_pointed n, isPlain_pointed n⟩, hnear.1,
    fun k hk => hnear.even_of_middle hk⟩
  rw [htext]
  cases negative <;> rfl

/-- The text of a finite double has its sign, an integer without a zero in front and two decimals,
and the number they say is the nearest to its exact magnitude.  All other bits are told by name. -/
theorem toFixed_ofBits (bits : UInt64) :
    (exponentField bits ≠ 2047 →
      ∃ n, Prints (ofBits bits).toFixed (isNegative bits) (exactMagnitude bits) n) ∧
    (exponentField bits = 2047 → fractionField bits = 0 →
      (ofBits bits).toFixed = if isNegative bits then "-inf".toList else "inf".toList) ∧
    (exponentField bits = 2047 → fractionField bits ≠ 0 →
      (ofBits bits).toFixed = "NaN".toList) := by
  refine ⟨fun h => exists_prints_of_denotes (denotes_ofBits h), fun h hzero => ?_, fun h hne => ?_⟩
  · rw [ofBits_eq, if_pos h, if_pos hzero]
    cases isNegative bits <;> rfl
  · rw [ofBits_eq, if_pos h, if_neg hne]
    rfl

/-- A tie, a carry through all digits, and less than a hundredth below zero; then an infinity and
bits that are no number, both with the sign set. -/
theorem toFixed_ofBits_signed :
    let tie : UInt64 := 0x3FC0000000000000
    let carry : UInt64 := 0xBFEFF7CED916872B
    let least : UInt64 := 0x8000000000000001
    let infinite : UInt64 := 0xFFF0000000000000
    let undefined : UInt64 := 0xFFF8000000000001
    (exponentField tie ≠ 2047 ∧ ∃ n, Prints "0.12".toList false (1 / 8) n) ∧
      (exponentField carry ≠ 2047 ∧ ∃ n, Prints "-1.00".toList true (exactMagnitude carry) n) ∧
      (exponentField least ≠ 2047 ∧ ∃ n, Prints "-0.00".toList true (exactMagnitude least) n) ∧
      (exponentField infinite = 2047 ∧ fractionField infinite = 0 ∧
        (ofBits infinite).toFixed = "-inf".toList) ∧
      exponentField undefined = 2047 ∧ fractionField undefined ≠ 0 ∧
        (ofBits undefined).toFixed = "NaN".toList := by
  intro tie carry least infinite undefined
  have hmagnitude : exactMagnitude tie = 1 / 8 := by
    rw [exactMagnitude, show exponentField tie = 1020 by decide,
      show fractionField tie = 0 by decide]
    norm_num
  have htie := (toFixed_ofBits tie).1 (by decide)
  have hcarry := (toFixed_ofBits carry).1 (by decide)
  have hleast := (toFixed_ofBits least).1 (by decide)
  have hinfinite := (toFixed_ofBits infinite).2.1 (by decide) (by decide)
  have hundefined := (toFixed_ofBits undefined).2.2 (by decide) (by decide)
  rw [show (ofBits tie).toFixed = "0.12".toList by decide +kernel,
    show isNegative tie = false by decide +kernel, hmagnitude] at htie
  rw [show (ofBits carry).toFixed = "-1.00".toList by decide +kernel,
    show isNegative carry = true by decide +kernel] at hcarry
  rw [show (ofBits least).toFixed = "-0.00".toList by decide +kernel,
    show isNegative least = true by decide +kernel] at hleast
  rw [show isNegative infinite = true by decide +kernel] at hinfinite
  exact ⟨⟨by decide, htie⟩, ⟨by decide, hcarry⟩, ⟨by decide, hleast⟩,
    ⟨by decide, by decide, hinfinite⟩, by decide, by decide, hundefined⟩

end Binary64
end SimReport
