/-
What a number with two decimals says.

The text has one or more digits, a point and two digits, and read without the
point they are a count of hundredths (`Text.IsHundredths`).  Of a finite number
it is the count nearest to the exact value, a tie going to the even one
(`toFixed_of_denotes`).
-/
import SimReport.Binary64.Fixed
import SimReport.Proofs.Binary64.Nearest
import SimReport.Proofs.Text.Numeral

namespace SimReport

/-- One or more digits, a point and two digits, which say `n` hundredths. -/
def Text.IsHundredths (t : Text) (n : Nat) : Prop :=
  ∃ (whole : Text) (tenth hundredth : Char), whole ≠ [] ∧ t = whole ++ ['.', tenth, hundredth] ∧
    digitsValue? .decimal (whole ++ [tenth, hundredth]) = some n

/-- The text says one number. -/
theorem Text.IsHundredths.unique {t : Text} {m n : Nat} (hm : t.IsHundredths m)
    (hn : t.IsHundredths n) : m = n := by
  obtain ⟨whole, tenth, hundredth, -, rfl, hvalue⟩ := hm
  obtain ⟨whole', tenth', hundredth', -, heq, hvalue'⟩ := hn
  obtain ⟨rfl, hdecimals⟩ := List.append_inj' heq rfl
  obtain ⟨rfl, rfl⟩ : tenth = tenth' ∧ hundredth = hundredth' := by simpa using hdecimals
  exact Option.some.inj (hvalue.symm.trans hvalue')

namespace Binary64

theorem isHundredths_pointed (n : Nat) : (pointed n).IsHundredths n := by
  refine ⟨Text.ofNat (n / 100), _, _, Nat.toDigits_ne_nil, rfl, ?_⟩
  have hdigit : ∀ d, d < 10 → Radix.decimal.digit? d.digitChar = some d :=
    fun d hd => Radix.digit?_digitChar hd (by omega)
  have hwhole : Text.digitsValue? .decimal (Text.ofNat (n / 100)) = some (n / 100) :=
    Text.digitsValue?_toDigits (r := .decimal) (by decide) _
  rw [← List.singleton_append, ← List.append_assoc, Text.digitsValue?_concat,
    Text.digitsValue?_concat, hwhole, hdigit _ (Nat.mod_lt _ (by decide)),
    hdigit _ (Nat.mod_lt _ (by decide))]
  show some ((n / 100 * 10 + n / 10 % 10) * 10 + n % 10) = some n
  congr 1
  omega

theorem nearestEven_hundredths (significand : Nat) (exponent : Int) :
    NearestEven (100 * (significand * 2 ^ exponent)) (hundredths significand exponent) := by
  have h := nearestEven_scaleDown (100 * significand) Nat.one_pos (-exponent)
  rw [Nat.cast_one, div_one, zpow_neg, div_inv_eq_mul, Nat.cast_mul, mul_assoc] at h
  exact h

theorem toFixed_zero : zero.toFixed = "0.00".toList := by
  have h : hundredths 0 (-1074) = 0 := (nearestEven_hundredths 0 (-1074)).eq_zero (by simp)
  show signText false ++ pointed (hundredths 0 (-1074)) = _
  rw [h]
  rfl

/-- The hundredths shown are the nearest to the exact value. -/
theorem toFixed_of_denotes {x : Binary64} {negative : Bool} {y : ℚ} (h : x.Denotes negative y) :
    ∃ n, x.toFixed = signText negative ++ pointed n ∧ NearestEven (100 * y) n := by
  obtain ⟨significand, exponent, rfl, -, -, -, rfl⟩ := h
  exact ⟨_, rfl, nearestEven_hundredths significand exponent⟩

end Binary64
end SimReport
