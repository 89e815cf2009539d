/-
The instructions per cycle that are printed.

Up to four roundings lie between the counts and the printed number: each count
becomes a double, their quotient becomes one, and two decimals are kept of that.
Each of them keeps the order, so more instructions in fewer cycles never print a
smaller number (`ipc_order`).

Rounding once more could still carry a quotient over the middle between two
hundredths.  A quotient of counts that is not such a middle keeps a distance from
it, and for up to 2 ^ 44 instructions the double stays within that distance.
What is printed is then a nearest number of hundredths of the true ratio
(`toFixed_ipc`).
-/
import SimReport.Metrics
import SimReport.Proofs.Binary64.Fixed

namespace SimReport

open Binary64

/-! ## Quotients of counts -/

theorem Binary64.Nearest.error_quotient {i c : Nat} {y : ℚ} (h : Nearest (i / c) y) (hc : 0 < c)
    (hsmall : c ≤ 2 ^ 64) : |y - i / c| ≤ i / c / 2 ^ 53 := by
  obtain rfl | hi := Nat.eq_zero_or_pos i
  · rw [Nat.cast_zero, zero_div] at h ⊢
    rw [h.eq_zero]
    simp
  · refine h.error ?_
    have hone : (1 : ℚ) ≤ i := by exact_mod_cast hi
    have hcast : (c : ℚ) ≤ 2 ^ 64 := by exact_mod_cast hsmall
    have hpos : (0 : ℚ) < c := by exact_mod_cast hc
    calc (2 : ℚ) ^ (-1022 : Int) ≤ 2 ^ (-64 : Int) := zpow_le_zpow_right₀ one_le_two (by norm_num)
      _ = 1 / 2 ^ 64 := by norm_num
      _ ≤ 1 / c := one_div_le_one_div_of_le hpos hcast
      _ ≤ i / c := div_le_div_of_nonneg_right hone hpos.le

/-- A quotient of counts is no nearer to a middle between two hundredths than one part in `200 * c`,
unless it is that middle.  So a number that is nearer to the quotient than that has no other
nearest hundredths than the quotient has. -/
theorem NearestEven.of_close {i c n : Nat} {y : ℚ} (hn : NearestEven (100 * y) n) (hc : 0 < c)
    (hclose : |y - i / c| < 1 / (200 * c)) : 2 * |100 * (i : Int) - n * c| ≤ c := by
  have hpos : (0 : ℚ) < c := by exact_mod_cast hc
  have hsplit : (100 * i - n * c : ℚ) = (100 * y - n) * c - 100 * (y - i / c) * c := by
    field_simp
    ring
  have hfirst : |(100 * y - n) * c| ≤ 1 / 2 * c := by
    rw [abs_mul, abs_of_pos hpos]
    exact mul_le_mul_of_nonneg_right hn.1 hpos.le
  have hsecond : |100 * (y - i / c) * c| < 1 / 2 := by
    rw [abs_mul, abs_mul, abs_of_pos hpos, abs_of_pos (by norm_num : (0 : ℚ) < 100)]
    calc 100 * |y - i / c| * c < 100 * (1 / (200 * c)) * c := by gcongr
      _ = 1 / 2 := by field_simp; norm_num
  have hbound : |(100 * i - n * c : ℚ)| < 1 / 2 * c + 1 / 2 := by
    rw [hsplit]
    exact (abs_sub _ _).trans_lt (by linarith)
  have hcast : ((2 * |100 * (i : Int) - n * c| : Int) : ℚ) < ((c + 1 : Int) : ℚ) := by
    push_cast
    linarith
  exact Int.lt_add_one_iff.mp (by exact_mod_cast hcast)

/-- As long as the cycles are a double, only the quotient is rounded. -/
theorem Binary64.Nearest.close_of_lt {i c : Nat} {y : ℚ}
    (h : Nearest (nearestInteger i / nearestInteger c) y) (hi : i ≤ 2 ^ 44) (hc : 0 < c)
    (hexact : c < 2 ^ 53) : |y - i / c| < 1 / (200 * c) := by
  rw [nearestInteger_of_lt (by omega : i < 2 ^ 53), nearestInteger_of_lt hexact] at h
  have hpos : (0 : ℚ) < c := by exact_mod_cast hc
  have hfew : (i : ℚ) ≤ 2 ^ 44 := by exact_mod_cast hi
  have hscaled := mul_le_mul_of_nonneg_right hfew hpos.le
  refine (h.error_quotient hc (by omega)).trans_lt ?_
  rw [div_div, div_lt_div_iff₀ (by positivity) (by positivity)]
  linarith

/-- More cycles are rounded as well, but then the ratio is next to nothing. -/
theorem Binary64.Nearest.lt_of_le {i c : Nat} {y : ℚ}
    (h : Nearest (nearestInteger i / nearestInteger c) y) (hi : i ≤ 2 ^ 44) (hlarge : 2 ^ 53 ≤ c)
    (hsmall : c ≤ 2 ^ 64) : 100 * y < 1 / 2 := by
  rw [nearestInteger_of_lt (by omega : i < 2 ^ 53)] at h
  have hkept : nearestInteger (2 ^ 53) = 2 ^ 53 := by decide +kernel
  have hden : 2 ^ 53 ≤ nearestInteger c := hkept ▸ nearestInteger_mono hlarge
  have herror := h.error_quotient (by omega) (nearestInteger_le hsmall)
  have hquotient : (i / nearestInteger c : ℚ) ≤ 2 ^ 44 / 2 ^ 53 := by
    refine div_le_div₀ (by norm_num) ?_ (by norm_num) ?_
    · exact_mod_cast hi
    · exact_mod_cast hden
  have hhigh := (abs_le.mp herror).2
  linarith

namespace Metrics

/-! ## The double -/

theorem ipc_of_no_cycles {m : Metrics} (h : m.counters.cycles = 0) : m.ipc = .zero := if_pos h

theorem toNat_cycles_pos {m : Metrics} (h : m.counters.cycles ≠ 0) :
    0 < m.counters.cycles.toNat :=
  Nat.pos_of_ne_zero fun hzero => h (UInt64.toNat_inj.mp hzero)

theorem exists_nearest_ipc {m : Metrics} (h : m.counters.cycles ≠ 0) :
    ∃ y, m.ipc.Denotes false y ∧
      Nearest (nearestInteger m.counters.instructions.toNat /
        nearestInteger m.counters.cycles.toNat) y := by
  have hden := nearestInteger_pos (toNat_cycles_pos h)
  have hnum := nearestInteger_le (UInt64.toNat_lt m.counters.instructions).le
  have hsmall : (nearestInteger m.counters.instructions.toNat /
      nearestInteger m.counters.cycles.toNat : ℚ) < 2 ^ (1023 : Int) := by
    have hone : (1 : ℚ) ≤ nearestInteger m.counters.cycles.toNat := by exact_mod_cast hden
    have hle : (nearestInteger m.counters.instructions.toNat : ℚ) ≤ 2 ^ 64 := by
      exact_mod_cast hnum
    calc (nearestInteger m.counters.instructions.toNat /
          nearestInteger m.counters.cycles.toNat : ℚ)
        ≤ nearestInteger m.counters.instructions.toNat := div_le_self (Nat.cast_nonneg _) hone
      _ ≤ 2 ^ 64 := hle
      _ = 2 ^ (64 : Int) := by norm_num
      _ < 2 ^ (1023 : Int) := zpow_lt_zpow_right₀ one_lt_two (by norm_num)
  rw [ipc, if_neg h]
  exact exists_denotes_ofQuotient hden hsmall

theorem exists_denotes_ipc (m : Metrics) : ∃ y, m.ipc.Denotes false y := by
  by_cases h : m.counters.cycles = 0
  · rw [ipc_of_no_cycles h]
    exact ⟨0, 0, -1074, rfl, by norm_num⟩
  · obtain ⟨y, hy, -⟩ := exists_nearest_ipc h
    exact ⟨y, hy⟩

/-- The text is that of the nearest hundredths of the double, without a sign. -/
theorem exists_hundredths_ipc {m : Metrics} {y : ℚ} (hy : m.ipc.Denotes false y) :
    ∃ n, m.ipc.toFixed.IsHundredths n ∧ NearestEven (100 * y) n := by
  obtain ⟨n, htext, hn⟩ := toFixed_of_denotes hy
  rw [htext]
  exact ⟨n, isHundredths_pointed n, hn⟩

/-! ## Order -/

theorem ipc_mono {a b : Metrics} {x y : ℚ}
    (hinstructions : a.counters.instructions ≤ b.counters.instructions)
    (hcycles : b.counters.cycles ≤ a.counters.cycles) (hb : b.counters.cycles ≠ 0)
    (hx : a.ipc.Denotes false x) (hy : b.ipc.Denotes false y) : x ≤ y := by
  have ha : a.counters.cycles ≠ 0 := fun h => hb (UInt64.le_zero_iff.mp (h ▸ hcycles))
  obtain ⟨x', hx', hxnear⟩ := exists_nearest_ipc ha
  obtain ⟨y', hy', hynear⟩ := exists_nearest_ipc hb
  rw [hx.unique hx', hy.unique hy']
  have hnum := nearestInteger_mono (UInt64.le_iff_toNat_le.mp hinstructions)
  have hden := nearestInteger_mono (UInt64.le_iff_toNat_le.mp hcycles)
  have hpos := nearestInteger_pos (toNat_cycles_pos hb)
  refine hxnear.mono hynear (by positivity) (div_le_div₀ (Nat.cast_nonneg _) ?_ ?_ ?_)
  · exact_mod_cast hnum
  · exact_mod_cast hpos
  · exact_mod_cast hden

/-- The instructions per cycle are always a finite number without a sign, which is printed as such,
and with more instructions in fewer cycles neither the number nor its text gets smaller. -/
theorem ipc_order :
    (∀ m : Metrics, (∃ y, m.ipc.Denotes false y ∧ 0 ≤ y) ∧ ∃ n, m.ipc.toFixed.IsHundredths n) ∧
      ∀ a b : Metrics, a.counters.instructions ≤ b.counters.instructions →
        b.counters.cycles ≤ a.counters.cycles → b.counters.cycles ≠ 0 →
        (∀ x y, a.ipc.Denotes false x → b.ipc.Denotes false y → x ≤ y) ∧
          ∀ m n, a.ipc.toFixed.IsHundredths m → b.ipc.toFixed.IsHundredths n → m ≤ n := by
  refine ⟨fun m => ?_, fun a b hinstructions hcycles hb => ⟨fun x y hx hy => ?_, ?_⟩⟩
  · obtain ⟨y, hy⟩ := m.exists_denotes_ipc
    obtain ⟨n, hn, -⟩ := exists_hundredths_ipc hy
    exact ⟨⟨y, hy, hy.nonneg⟩, n, hn⟩
  · exact ipc_mono hinstructions hcycles hb hx hy
  · intro m n hm hn
    obtain ⟨x, hx⟩ := a.exists_denotes_ipc
    obtain ⟨y, hy⟩ := b.exists_denotes_ipc
    obtain ⟨m', hm', hxnear⟩ := exists_hundredths_ipc hx
    obtain ⟨n', hn', hynear⟩ := exists_hundredths_ipc hy
    have hle := ipc_mono hinstructions hcycles hb hx hy
    rw [hm.unique hm', hn.unique hn']
    exact hxnear.mono hynear (by linarith)

/-- One cycle less than the middle between two doubles, where the tie goes up to 2 ^ 64. -/
theorem ipc_order_rounded :
    let a : Metrics :=
      { counters := { instructions := 18446744073709551615, cycles := 18446744073709550592 } }
    let b : Metrics :=
      { counters := { instructions := 18446744073709551615, cycles := 18446744073709550591 } }
    a.counters.instructions ≤ b.counters.instructions ∧ b.counters.cycles ≤ a.counters.cycles ∧
      b.counters.cycles ≠ 0 ∧ a.ipc = .finite false (2 ^ 52) (-52) ∧
      b.ipc = .finite false (2 ^ 52 + 1) (-52) ∧
      (∀ x y, a.ipc.Denotes false x → b.ipc.Denotes false y → x ≤ y) ∧
      ∀ m n, a.ipc.toFixed.IsHundredths m → b.ipc.toFixed.IsHundredths n → m ≤ n := by
  intro a b
  have hinstructions : a.counters.instructions ≤ b.counters.instructions := by decide
  have hcycles : b.counters.cycles ≤ a.counters.cycles := by decide
  have hb : b.counters.cycles ≠ 0 := by decide
  obtain ⟨-, horder⟩ := ipc_order
  exact ⟨hinstructions, hcycles, hb, by decide +kernel, by decide +kernel,
    horder a b hinstructions hcycles hb⟩

/-! ## Nearness -/

/-- Up to 2 ^ 44 instructions the number printed is at most half a hundredth off the exact ratio. -/
theorem toFixed_ipc (m : Metrics) :
    (m.counters.cycles = 0 → m.ipc.toFixed = "0.00".toList) ∧
      (m.counters.cycles ≠ 0 → m.counters.instructions.toNat ≤ 2 ^ 44 →
        ∃ n, m.ipc.toFixed.IsHundredths n ∧
          2 * |100 * (m.counters.instructions.toNat : Int) - n * m.counters.cycles.toNat| ≤
            m.counters.cycles.toNat) := by
  constructor
  · intro h
    rw [ipc_of_no_cycles h, toFixed_zero]
  intro h hfew
  obtain ⟨y, hy, hnear⟩ := exists_nearest_ipc h
  obtain ⟨n, htext, hn⟩ := exists_hundredths_ipc hy
  refine ⟨n, htext, ?_⟩
  have hcycles := toNat_cycles_pos h
  have hsmall := (UInt64.toNat_lt m.counters.cycles).le
  generalize m.counters.cycles.toNat = c at hnear hcycles hsmall ⊢
  generalize m.counters.instructions.toNat = i at hnear hfew ⊢
  by_cases hexact : c < 2 ^ 53
  · exact hn.of_close hcycles (hnear.close_of_lt hfew hcycles hexact)
  · have hlarge : 2 ^ 53 ≤ c := not_lt.mp hexact
    rw [hn.eq_zero (hnear.lt_of_le hfew hlarge hsmall), Nat.cast_zero, zero_mul, sub_zero,
      abs_of_nonneg (by positivity)]
    omega

/-- No cycles, and a ratio that lies below 1.005 by one part in two hundred times the cycles. -/
theorem toFixed_ipc_below_middle :
    let idle : Metrics := { counters := { instructions := 1000 } }
    let m : Metrics :=
      { counters := { instructions := 17592186044254, cycles := 17504662730601 } }
    idle.ipc.toFixed = "0.00".toList ∧ m.counters.cycles ≠ 0 ∧
      m.counters.instructions.toNat ≤ 2 ^ 44 ∧
      2 * (100 * m.counters.instructions.toNat) + 1 = (2 * 100 + 1) * m.counters.cycles.toNat ∧
      m.ipc.toFixed = "1.00".toList ∧ ∃ n, Text.IsHundredths "1.00".toList n ∧
        2 * |100 * (m.counters.instructions.toNat : Int) - n * m.counters.cycles.toNat| ≤
          m.counters.cycles.toNat := by
  intro idle m
  obtain ⟨hidle, -⟩ := toFixed_ipc idle
  obtain ⟨-, hnear⟩ := toFixed_ipc m
  have hcycles : m.counters.cycles ≠ 0 := by decide
  have hfew : m.counters.instructions.toNat ≤ 2 ^ 44 := by decide
  have htext : m.ipc.toFixed = "1.00".toList := by decide +kernel
  rw [htext] at hnear
  exact ⟨hidle rfl, hcycles, hfew, by decide, htext, hnear hcycles hfew⟩

end Metrics
end SimReport
