/-
Reading numerals back.  A numeral is what `Nat.toDigits` prints, after any
number of zeros and in either case of the letters.  With blanks around it, and
in base sixteen a mark in front of it, the reader finds the number printed.
Nothing else is read: what is trimmed, the mark and one plus sign apart, are the
digits of the word that is found (`readWord?_eq_some_iff`).
-/
import SimReport.Text.Numeral
import Mathlib.Data.List.Basic
import Mathlib.Data.List.Induction
import Mathlib.Data.List.TakeWhile
import Mathlib.Tactic.IntervalCases

namespace SimReport

/-! ## Digit signs -/

namespace Radix

variable {r : Radix} {c : Char}

theorem toNat_of_digit? (h : r.digit? c ≠ none) :
    (48 ≤ c.toNat ∧ c.toNat ≤ 57) ∨ (65 ≤ c.toNat ∧ c.toNat ≤ 90) ∨
      (97 ≤ c.toNat ∧ c.toNat ≤ 122) := by
  obtain ⟨d, hd⟩ := Option.ne_none_iff_exists'.mp h
  simp only [digit?, Option.filter_eq_some_iff] at hd
  have hv := hd.1
  split at hv
  · next hc => exact Or.inl hc
  · split at hv
    · next hc => exact Or.inr (Or.inr hc)
    · split at hv
      · next hc => exact Or.inr (Or.inl hc)
      · cases hv

theorem not_isBlank_of_digit? (h : r.digit? c ≠ none) : Text.isBlank c = false := by
  have hc := toNat_of_digit? h
  simp only [Text.isBlank, Text.blankRanges, List.any_cons, List.any_nil, Bool.or_false,
    Bool.or_eq_false_iff, Bool.and_eq_false_iff, decide_eq_false_iff_not]
  omega

/-- A digit sign of one base is one of every larger base. -/
theorem digit?_ne_none_of_le {s : Radix} (hle : r.base ≤ s.base) (h : r.digit? c ≠ none) :
    s.digit? c ≠ none := by
  obtain ⟨d, hd⟩ := Option.ne_none_iff_exists'.mp h
  have hlt := digit?_lt hd
  simp only [digit?, Option.filter_eq_some_iff] at hd
  refine Option.ne_none_iff_exists'.mpr ⟨d, ?_⟩
  simp only [digit?, Option.filter_eq_some_iff]
  exact ⟨hd.1, decide_eq_true (Nat.lt_of_lt_of_le hlt hle)⟩

theorem digit?_digitChar {d : Nat} (hd : d < r.base) (h : d < 16) :
    r.digit? d.digitChar = some d := by
  interval_cases d <;> simp [digit?, Nat.digitChar, hd]

theorem digit?_zero (r : Radix) : r.digit? '0' = some 0 :=
  digit?_digitChar (Nat.lt_of_lt_of_le Nat.zero_lt_two r.two_le) (by decide)

/-- No other digit sign has the value zero. -/
theorem digit?_eq_zero_iff : r.digit? c = some 0 ↔ c = '0' := by
  constructor
  · intro h
    simp only [digit?, Option.filter_eq_some_iff] at h
    have hv := h.1
    split at hv
    · next hc =>
      have hlow : 48 ≤ c.toNat := hc.1
      have hvalue : c.toNat - 48 = 0 := Option.some.inj hv
      refine Char.toNat_inj.mp ?_
      show c.toNat = 48
      omega
    · split at hv
      · cases hv
      · split at hv <;> cases hv
  · rintro rfl
    exact r.digit?_zero

theorem digit?_toLower (r : Radix) (c : Char) : r.digit? c.toLower = r.digit? c := by
  by_cases hc : 65 ≤ c.toNat ∧ c.toNat ≤ 90
  · obtain ⟨n, hn⟩ : ∃ n, c.toNat = n := ⟨_, rfl⟩
    obtain rfl : c = Char.ofNat n := by rw [← hn, Char.ofNat_toNat]
    rw [hn] at hc
    clear hn
    obtain ⟨hlow, hhigh⟩ := hc
    interval_cases n <;> rfl
  · have hsame : c.toLower = c := dif_neg hc
    rw [hsame]

end Radix

namespace Text

/-! ## The value of digits -/

theorem digitsValue?_concat (r : Radix) (t : Text) (c : Char) :
    digitsValue? r (t ++ [c]) =
      (digitsValue? r t).bind fun value => (r.digit? c).map (value * r.base + ·) := by
  rw [digitsValue?, List.foldlM_append, digitsValue?]
  simp only [List.foldlM_cons, List.foldlM_nil, bind_pure]
  rfl

theorem digitsValue?_zeros (r : Radix) (zeros : Nat) (t : Text) :
    digitsValue? r (List.replicate zeros '0' ++ t) = digitsValue? r t := by
  induction zeros with
  | zero => rfl
  | succ zeros ih =>
    rw [List.replicate_succ, List.cons_append, digitsValue?, List.foldlM_cons, r.digit?_zero,
      Option.map_some, Nat.zero_mul]
    exact ih

/-- Digits have the value zero only if all of them are zeros. -/
theorem digitsValue?_eq_zero_iff {r : Radix} {t : Text} :
    digitsValue? r t = some 0 ↔ ∀ c ∈ t, c = '0' := by
  induction t using List.reverseRecOn with
  | nil => simp [digitsValue?]
  | append_singleton t c ih =>
    have htwo := r.two_le
    have hlast : digitsValue? r (t ++ [c]) = some 0 ↔
        digitsValue? r t = some 0 ∧ r.digit? c = some 0 := by
      rw [digitsValue?_concat]
      cases digitsValue? r t with
      | none => simp
      | some value =>
        cases r.digit? c with
        | none => simp
        | some d =>
          simp only [Option.bind_some, Option.map_some, Option.some.injEq, Nat.add_eq_zero_iff,
            Nat.mul_eq_zero]
          omega
    rw [hlast, ih, Radix.digit?_eq_zero_iff]
    simp [or_imp, forall_and]

theorem digitsValue?_map_toLower (r : Radix) (t : Text) :
    digitsValue? r (t.map Char.toLower) = digitsValue? r t := by
  simp only [digitsValue?, List.foldlM_map, r.digit?_toLower]

theorem digitsValue?_toDigits {r : Radix} (hr : r.base ≤ 16) (n : Nat) :
    digitsValue? r (Nat.toDigits r.base n) = some n := by
  have htwo := r.two_le
  induction n using Nat.strong_induction_on with
  | _ n ih =>
    rw [Nat.toDigits_eq_if (by omega)]
    split
    · next hn =>
      have h := digitsValue?_concat r [] n.digitChar
      rw [List.nil_append, Radix.digit?_digitChar hn (by omega)] at h
      simpa [digitsValue?] using h
    · next hn =>
      have hlow : n % r.base < r.base := Nat.mod_lt n (by omega)
      rw [digitsValue?_concat, ih (n / r.base) (Nat.div_lt_self (by omega) (by omega)),
        Radix.digit?_digitChar hlow (by omega), Option.bind_some, Option.map_some,
        Nat.div_add_mod']

/-- A decimal numeral is read as the number it was printed for. -/
theorem natural?_ofNat (n : Nat) : natural? .decimal (ofNat n) = some n := by
  have hne : (ofNat n).isEmpty = false := by
    rw [← Bool.not_eq_true, List.isEmpty_iff]
    exact Nat.toDigits_ne_nil
  rw [natural?, hne]
  exact digitsValue?_toDigits (r := .decimal) (by decide) n

/-- No zero stands in front of the digits of a number. -/
theorem head?_ofNat {n : Nat} (h : n ≠ 0) : (ofNat n).head? ≠ some '0' := by
  unfold ofNat
  induction n using Nat.strong_induction_on with
  | _ n ih =>
    rw [Nat.toDigits_eq_if (by decide)]
    split
    · rw [List.head?_cons, ne_eq, Option.some.injEq, Nat.digitChar_eq_zero]
      exact h
    · rw [List.head?_append_of_ne_nil _ Nat.toDigits_ne_nil]
      exact ih (n / 10) (by omega) (by omega)

theorem digit?_of_digitsValue? {r : Radix} {t : Text} {n : Nat} (h : digitsValue? r t = some n)
    {c : Char} (hc : c ∈ t) : r.digit? c ≠ none := by
  induction t using List.reverseRecOn generalizing n with
  | nil => exact absurd hc List.not_mem_nil
  | append_singleton t d ih =>
    rw [digitsValue?_concat, Option.bind_eq_some_iff] at h
    obtain ⟨value, ht, hd⟩ := h
    rcases List.mem_append.mp hc with hc | hc
    · exact ih ht hc
    · rw [List.mem_singleton.mp hc]
      intro hnone
      rw [hnone] at hd
      cases hd

/-! ## Blanks and marks around the digits -/

/-- Blanks on both sides of a text that neither begins nor ends with one are trimmed. -/
theorem trim_of_ends {left t right : Text} (hleft : ∀ c ∈ left, isBlank c = true)
    (hright : ∀ c ∈ right, isBlank c = true) (hhead : ∀ c, t.head? = some c → isBlank c = false)
    (hlast : ∀ c, t.getLast? = some c → isBlank c = false) : trim (left ++ (t ++ right)) = t := by
  have hkeep : ∀ {u v : Text}, u ≠ [] → (∀ c, u.head? = some c → isBlank c = false) →
      (u ++ v).dropWhile isBlank = u ++ v := by
    intro u v hu h
    obtain ⟨c, u, rfl⟩ := List.exists_cons_of_ne_nil hu
    rw [List.cons_append, List.dropWhile_cons_of_neg]
    rw [h c rfl]
    exact Bool.false_ne_true
  have hright' : ∀ c ∈ right.reverse, isBlank c = true :=
    fun c hc => hright c (List.mem_reverse.mp hc)
  by_cases hne : t = []
  · rw [hne, List.nil_append, trim, List.dropWhile_append_of_pos hleft,
      List.dropWhile_eq_nil_iff.mpr hright]
    rfl
  · rw [trim, List.dropWhile_append_of_pos hleft, hkeep hne hhead, List.reverse_append,
      List.dropWhile_append_of_pos hright']
    have h := hkeep (v := []) (mt List.reverse_eq_nil_iff.mp hne) fun c hc =>
      hlast c (List.head?_reverse ▸ hc)
    rw [List.append_nil] at h
    rw [h, List.reverse_reverse]

theorem trim_pad {left t right : Text} (hleft : ∀ c ∈ left, isBlank c = true)
    (hright : ∀ c ∈ right, isBlank c = true) (ht : ∀ c ∈ t, isBlank c = false) :
    trim (left ++ (t ++ right)) = t :=
  trim_of_ends hleft hright (fun c hc => ht c (List.mem_of_head? hc))
    fun c hc => ht c (List.mem_of_getLast? hc)

theorem dropHexMark_of_not_mem {t : Text} (hx : 'x' ∉ t) (hX : 'X' ∉ t) : dropHexMark t = t := by
  unfold dropHexMark
  split
  · exact absurd (List.mem_cons_of_mem _ List.mem_cons_self) hx
  · exact absurd (List.mem_cons_of_mem _ List.mem_cons_self) hX
  · rfl

theorem dropPlus_of_not_mem {t : Text} (h : '+' ∉ t) : dropPlus t = t := by
  unfold dropPlus
  split
  · exact absurd List.mem_cons_self h
  · rfl

/-- What may stand in front of the digits of a numeral. -/
def marksOf (r : Radix) : List Text :=
  if r.base = 16 then [[], ['0', 'x'], ['0', 'X']] else [[]]

theorem mem_marks_of_mem_marksOf {r : Radix} {mark : Text} (h : mark ∈ marksOf r) :
    mark ∈ ([[], ['0', 'x'], ['0', 'X']] : List Text) := by
  unfold marksOf at h
  split at h
  · exact h
  · rw [List.mem_singleton.mp h]
    exact List.mem_cons_self

theorem not_isBlank_of_mem_marksOf {r : Radix} {mark : Text} (h : mark ∈ marksOf r) :
    ∀ c ∈ mark, isBlank c = false := by
  have hall : ∀ mark ∈ ([[], ['0', 'x'], ['0', 'X']] : List Text), mark.any isBlank = false := by
    decide
  intro c hc
  have hmark := hall mark (mem_marks_of_mem_marksOf h)
  exact Bool.eq_false_iff.mpr (List.any_eq_false.mp hmark c hc)

/-- What may stand between the mark and the digits of a numeral. -/
def signs : List Text := [[], ['+']]

/-- The text that is left when the mark is dropped, in the bases that have one. -/
def unmarked (r : Radix) (t : Text) : Text := if r.base = 16 then dropHexMark t else t

theorem eq_append_unmarked (r : Radix) (t : Text) :
    ∃ mark ∈ marksOf r, t = mark ++ unmarked r t := by
  unfold marksOf unmarked
  by_cases hr : r.base = 16
  · rw [if_pos hr, if_pos hr]
    unfold dropHexMark
    split
    · exact ⟨['0', 'x'], by simp, rfl⟩
    · exact ⟨['0', 'X'], by simp, rfl⟩
    · exact ⟨[], by simp, rfl⟩
  · rw [if_neg hr, if_neg hr]
    exact ⟨[], List.mem_singleton_self _, rfl⟩

theorem unmarked_append {r : Radix} {mark t : Text} (hmark : mark ∈ marksOf r)
    (hx : r.base = 16 → 'x' ∉ t) (hX : r.base = 16 → 'X' ∉ t) : unmarked r (mark ++ t) = t := by
  unfold marksOf at hmark
  unfold unmarked
  by_cases hr : r.base = 16
  · simp only [if_pos hr, List.mem_cons, List.not_mem_nil, or_false] at hmark
    rw [if_pos hr]
    rcases hmark with rfl | rfl | rfl
    · exact dropHexMark_of_not_mem (hx hr) (hX hr)
    · rfl
    · rfl
  · rw [if_neg hr, List.mem_singleton] at hmark
    rw [if_neg hr, hmark, List.nil_append]

theorem eq_append_dropPlus (t : Text) : ∃ sign ∈ signs, t = sign ++ dropPlus t := by
  unfold dropPlus
  split
  · exact ⟨['+'], by simp [signs], rfl⟩
  · exact ⟨[], by simp [signs], rfl⟩

theorem not_isBlank_of_mem_signs {sign : Text} (h : sign ∈ signs) :
    ∀ c ∈ sign, isBlank c = false := by
  simp only [signs, List.mem_cons, List.not_mem_nil, or_false] at h
  rcases h with rfl | rfl
  · exact fun c hc => absurd hc List.not_mem_nil
  · intro c hc
    rw [List.mem_singleton.mp hc]
    rfl

theorem dropPlus_append {sign t : Text} (hsign : sign ∈ signs) (h : '+' ∉ t) :
    dropPlus (sign ++ t) = t := by
  simp only [signs, List.mem_cons, List.not_mem_nil, or_false] at hsign
  rcases hsign with rfl | rfl
  · exact dropPlus_of_not_mem h
  · rfl

theorem natural?_eq_some_iff {r : Radix} {t : Text} {n : Nat} :
    natural? r t = some n ↔ t ≠ [] ∧ digitsValue? r t = some n := by
  cases t <;> simp [natural?]

/-- Digits behind a mark and a sign are all that is left for reading. -/
theorem readWord?_of_trim {r : Radix} {t mark sign digits : Text} (hmark : mark ∈ marksOf r)
    (hsign : sign ∈ signs) (hne : digits ≠ []) (hdigits : ∀ c ∈ digits, r.digit? c ≠ none)
    (htrim : trim t = mark ++ (sign ++ digits)) :
    readWord? r t = (digitsValue? r digits).bind word? := by
  have hnot : ∀ c : Char, r.digit? c = none → c ∉ digits := fun c hc h => hdigits c h hc
  -- No character of the mark can stand in the digits or the sign, so nothing else is dropped.
  have hletter : ∀ c : Char, c ≠ '+' → r.digit? c = none → c ∉ sign ++ digits := by
    intro c hplus hc h
    simp only [signs, List.mem_cons, List.not_mem_nil, or_false] at hsign
    rcases List.mem_append.mp h with h | h
    · rcases hsign with rfl | rfl
      · exact List.not_mem_nil h
      · exact hplus (List.mem_singleton.mp h)
    · exact hnot c hc h
  have hbody : unmarked r (trim t) = sign ++ digits := by
    rw [htrim]
    refine unmarked_append hmark (fun hr => ?_) fun hr => ?_
    · exact hletter 'x' (by decide) (by simp [Radix.digit?, hr])
    · exact hletter 'X' (by decide) (by simp [Radix.digit?, hr])
  have hplus : '+' ∉ digits := hnot '+' (by simp [Radix.digit?])
  show (natural? r (dropPlus (unmarked r (trim t)))).bind word? = _
  rw [hbody, dropPlus_append hsign hplus, natural?, if_neg (by simpa using hne)]

/-- Exactly those texts are read that have, blanks around it apart, a mark, a sign and digits with
the value of a word. -/
theorem readWord?_eq_some_iff {r : Radix} {t : Text} {w : UInt64} :
    readWord? r t = some w ↔ ∃ mark ∈ marksOf r, ∃ sign ∈ signs, ∃ digits, digits ≠ [] ∧
      trim t = mark ++ (sign ++ digits) ∧ digitsValue? r digits = some w.toNat := by
  constructor
  · intro h
    have h' : (natural? r (dropPlus (unmarked r (trim t)))).bind word? = some w := h
    simp only [Option.bind_eq_some_iff, natural?_eq_some_iff, word?_eq_some_iff] at h'
    obtain ⟨n, ⟨hne, hvalue⟩, rfl⟩ := h'
    obtain ⟨mark, hmark, hbody⟩ := eq_append_unmarked r (trim t)
    obtain ⟨sign, hsign, hdigits⟩ := eq_append_dropPlus (unmarked r (trim t))
    refine ⟨mark, hmark, sign, hsign, _, hne, ?_, hvalue⟩
    rw [← hdigits]
    exact hbody
  · rintro ⟨mark, hmark, sign, hsign, digits, hne, htrim, hvalue⟩
    rw [readWord?_of_trim hmark hsign hne (fun c hc => digit?_of_digitsValue? hvalue hc) htrim,
      hvalue, Option.bind_some, word?_eq_some_iff]

/-- A numeral with its mark and blanks is read as the number its digits have as value. -/
theorem readWord?_pad {r : Radix} {left mark digits right : Text} {w : UInt64}
    (hleft : ∀ c ∈ left, isBlank c = true) (hright : ∀ c ∈ right, isBlank c = true)
    (hmark : mark ∈ marksOf r) (hvalue : digitsValue? r digits = some w.toNat)
    (hne : digits ≠ []) : readWord? r (left ++ (mark ++ digits ++ right)) = some w := by
  have hsign : ∀ c ∈ digits, r.digit? c ≠ none := fun c hc => digit?_of_digitsValue? hvalue hc
  have htrim : trim (left ++ (mark ++ digits ++ right)) = mark ++ digits := by
    refine trim_pad hleft hright fun c hc => ?_
    rcases List.mem_append.mp hc with hc | hc
    · exact not_isBlank_of_mem_marksOf hmark c hc
    · exact Radix.not_isBlank_of_digit? (hsign c hc)
  exact readWord?_eq_some_iff.mpr ⟨mark, hmark, [], List.mem_cons_self, digits, hne, htrim, hvalue⟩

/-- Nothing that is trimmed stands inside a numeral that is read. -/
theorem not_isBlank_of_readWord? {r : Radix} {t : Text} {w : UInt64} (h : readWord? r t = some w) :
    ∀ c ∈ trim t, isBlank c = false := by
  obtain ⟨mark, hmark, sign, hsign, digits, -, htrim, hvalue⟩ := readWord?_eq_some_iff.mp h
  intro c hc
  rw [htrim, List.mem_append, List.mem_append] at hc
  rcases hc with hc | hc | hc
  · exact not_isBlank_of_mem_marksOf hmark c hc
  · exact not_isBlank_of_mem_signs hsign c hc
  · exact Radix.not_isBlank_of_digit? (digit?_of_digitsValue? hvalue hc)

end Text
end SimReport
