/-
What lossy decoding keeps.

Inside a sequence the decoder holds the value of the bytes seen, and that value
decides which scalar values the sequence can still become: `Completes`.  A sound
state is one in which every such value has the bytes seen at the start of its
UTF-8 form.  Reading a byte keeps a state sound and loses no byte, so the pieces
of an input put end to end are that input (`flatMap_bytes_scan`).  In the other
direction the UTF-8 form of a text is read as that text.

A byte that continues no sequence ends whatever was begun before it.  A text in
the middle of arbitrary bytes is therefore decoded as itself, and the bytes on
either side of it as if they stood alone (`decodeLossy_append_toBytes`).
-/
import Mathlib.Algebra.Group.Nat.Defs
import SimReport.Text.Utf8

namespace SimReport
namespace Utf8

/-! ## The UTF-8 form by numbers -/

/-- The last `count` bytes of the UTF-8 form of `n`, all of which continue a sequence. -/
def continuation : Nat → Nat → Bytes
  | 0, _ => []
  | count + 1, n => UInt8.ofNat (0x80 + n / 64 ^ count % 64) :: continuation count n

theorem toNat_ofNat_of_isValidChar {n : Nat} (h : n.isValidChar) : (Char.ofNat n).toNat = n := by
  rw [Char.ofNat, dif_pos h]
  rfl

theorem utf8EncodeChar_of_lt {n : Nat} (h : n < 0x80) :
    String.utf8EncodeChar (Char.ofNat n) = [UInt8.ofNat n] := by
  have hn : (Char.ofNat n).val.toNat = n := toNat_ofNat_of_isValidChar (Or.inl (by omega))
  rw [String.utf8EncodeChar]
  simp only [hn]
  rw [if_pos (by omega)]

theorem utf8EncodeChar_two {n : Nat} (hlow : 0x80 ≤ n) (hhigh : n < 0x800) :
    String.utf8EncodeChar (Char.ofNat n) = UInt8.ofNat (0xc0 + n / 64) :: continuation 1 n := by
  have hn : (Char.ofNat n).val.toNat = n := toNat_ofNat_of_isValidChar (Or.inl (by omega))
  have hlead : n / 64 % 0x20 + 0xc0 = 0xc0 + n / 64 := by omega
  rw [String.utf8EncodeChar]
  simp only [hn, continuation, Nat.pow_zero, Nat.div_one]
  rw [if_neg (by omega), if_pos (by omega), hlead, Nat.add_comm (n % 64)]

theorem utf8EncodeChar_three {n : Nat} (hvalid : n.isValidChar) (hlow : 0x800 ≤ n)
    (hhigh : n < 0x10000) :
    String.utf8EncodeChar (Char.ofNat n) = UInt8.ofNat (0xe0 + n / 4096) :: continuation 2 n := by
  have hn : (Char.ofNat n).val.toNat = n := toNat_ofNat_of_isValidChar hvalid
  have hlead : n / 4096 % 0x10 + 0xe0 = 0xe0 + n / 4096 := by omega
  rw [String.utf8EncodeChar]
  simp only [hn, continuation, Nat.pow_zero, Nat.pow_one, Nat.div_one]
  rw [if_neg (by omega), if_neg (by omega), if_pos (by omega), hlead, Nat.add_comm (n % 64),
    Nat.add_comm (n / 64 % 64)]

theorem utf8EncodeChar_four {n : Nat} (hlow : 0x10000 ≤ n) (hhigh : n < 0x110000) :
    String.utf8EncodeChar (Char.ofNat n) = UInt8.ofNat (0xf0 + n / 262144) :: continuation 3 n := by
  have hn : (Char.ofNat n).val.toNat = n := toNat_ofNat_of_isValidChar (Or.inr (by omega))
  have hlead : n / 262144 % 0x08 + 0xf0 = 0xf0 + n / 262144 := by omega
  rw [String.utf8EncodeChar]
  simp only [hn, continuation, Nat.pow_zero, Nat.pow_one, Nat.div_one, Nat.reducePow]
  rw [if_neg (by omega), if_neg (by omega), if_neg (by omega), hlead, Nat.add_comm (n % 64),
    Nat.add_comm (n / 64 % 64), Nat.add_comm (n / 4096 % 64)]

/-! ## The first byte of a sequence -/

theorem start_of_lt {b : UInt8} (h : b.toNat < 0x80) :
    start b = (.boundary, [.scalar (Char.ofNat b.toNat)]) := by
  simp only [start]
  rw [if_pos h]

theorem start_of_broken {b : UInt8} (h : 0x80 ≤ b.toNat ∧ b.toNat < 0xc2 ∨ 0xf5 ≤ b.toNat) :
    start b = (.boundary, [.broken [b]]) := by
  simp only [start]
  by_cases hb : b.toNat < 0xc2
  · rw [if_neg (by omega), if_pos hb]
  · rw [if_neg (by omega), if_neg hb, if_neg (by omega), if_neg (by omega), if_neg (by omega),
      if_neg (by omega), if_neg (by omega), if_neg (by omega), if_neg (by omega)]

theorem start_two {b : UInt8} {value : Nat} (hb : b.toNat = 0xc0 + value) (hlow : 2 ≤ value)
    (hhigh : value < 32) : start b = (.inside [b] value 1 0x80 0xbf, []) := by
  simp only [start]
  rw [if_neg (by omega), if_neg (by omega), if_pos (by omega), hb, Nat.add_sub_cancel_left]

/-- The narrower ranges exclude overlong forms and surrogates. -/
theorem start_three {b : UInt8} {value : Nat} (hb : b.toNat = 0xe0 + value) (h : value < 16) :
    start b = (.inside [b] value 2 (if value = 0 then 0xa0 else 0x80)
      (if value = 13 then 0x9f else 0xbf), []) := by
  simp only [start, hb]
  rw [if_neg (by omega), if_neg (by omega), if_neg (by omega)]
  by_cases h0 : value = 0
  · subst h0
    rfl
  by_cases h13 : value = 13
  · subst h13
    rfl
  · rw [if_neg (by omega), if_neg (by omega), if_pos (by omega), if_neg h0, if_neg h13,
      Nat.add_sub_cancel_left]

/-- The narrower ranges exclude overlong forms and values that are too large. -/
theorem start_four {b : UInt8} {value : Nat} (hb : b.toNat = 0xf0 + value) (h : value ≤ 4) :
    start b = (.inside [b] value 3 (if value = 0 then 0x90 else 0x80)
      (if value = 4 then 0x8f else 0xbf), []) := by
  simp only [start, hb]
  rw [if_neg (by omega), if_neg (by omega), if_neg (by omega), if_neg (by omega),
    if_neg (by omega), if_neg (by omega)]
  by_cases h0 : value = 0
  · subst h0
    rfl
  by_cases h4 : value = 4
  · subst h4
    rfl
  · rw [if_neg (by omega), if_pos (by omega), if_neg h0, if_neg h4, Nat.add_sub_cancel_left]

/-! ## States that keep what was read -/

def Piece.bytes : Piece → Bytes
  | .scalar c => String.utf8EncodeChar c
  | .broken bytes => bytes

def State.seen : State → Bytes
  | .boundary => []
  | .inside seen _ _ _ _ => seen

/-- What a sequence can become of which `value` is read, `more` bytes are to come and the next is
between `low` and `high`. -/
def Completes (value more low high n : Nat) : Prop :=
  n / 64 ^ more = value ∧ low ≤ 0x80 + n / 64 ^ (more - 1) % 64 ∧
    0x80 + n / 64 ^ (more - 1) % 64 ≤ high

/-- Whatever the sequence can become is encoded as the bytes seen and the bytes to come. -/
def State.Sound : State → Prop
  | .boundary => True
  | .inside seen value more low high =>
    1 ≤ more ∧ 0x80 ≤ low ∧ high ≤ 0xbf ∧
      ∀ n, Completes value more low high n →
        String.utf8EncodeChar (Char.ofNat n) = seen ++ continuation more n

theorem ofNat_eq_of_toNat {b : UInt8} {n : Nat} (h : n = b.toNat) : UInt8.ofNat n = b := by
  rw [h, UInt8.ofNat_toNat]

theorem sound_two {b : UInt8} {value : Nat} (hb : b.toNat = 0xc0 + value) (hlow : 2 ≤ value)
    (hhigh : value < 32) : (State.inside [b] value 1 0x80 0xbf).Sound := by
  refine ⟨by omega, by omega, by omega, fun n ⟨hn, _, _⟩ => ?_⟩
  rw [Nat.pow_one] at hn
  rw [utf8EncodeChar_two (by omega) (by omega), ofNat_eq_of_toNat (b := b) (by omega)]
  rfl

theorem sound_three {b : UInt8} {value : Nat} (hb : b.toNat = 0xe0 + value) (h : value < 16) :
    (State.inside [b] value 2 (if value = 0 then 0xa0 else 0x80)
      (if value = 13 then 0x9f else 0xbf)).Sound := by
  refine ⟨by omega, by split <;> omega, by split <;> omega, fun n ⟨hn, hlow, hhigh⟩ => ?_⟩
  simp only [Nat.reducePow, Nat.reduceSub] at hn hlow hhigh
  have hshort : 0x800 ≤ n := by split at hlow <;> omega
  have hvalid : n.isValidChar := by
    by_cases h13 : value = 13
    · rw [if_pos h13] at hhigh
      exact Or.inl (by omega)
    · rcases Nat.lt_or_gt_of_ne h13 with h13 | h13
      · exact Or.inl (by omega)
      · exact Or.inr (by omega)
  rw [utf8EncodeChar_three hvalid hshort (by omega), ofNat_eq_of_toNat (b := b) (by omega)]
  rfl

theorem sound_four {b : UInt8} {value : Nat} (hb : b.toNat = 0xf0 + value) (h : value ≤ 4) :
    (State.inside [b] value 3 (if value = 0 then 0x90 else 0x80)
      (if value = 4 then 0x8f else 0xbf)).Sound := by
  refine ⟨by omega, by split <;> omega, by split <;> omega, fun n ⟨hn, hlow, hhigh⟩ => ?_⟩
  simp only [Nat.reducePow, Nat.reduceSub] at hn hlow hhigh
  have hshort : 0x10000 ≤ n := by split at hlow <;> omega
  have hlarge : n < 0x110000 := by split at hhigh <;> omega
  rw [utf8EncodeChar_four hshort hlarge, ofNat_eq_of_toNat (b := b) (by omega)]
  rfl

theorem start_sound (b : UInt8) :
    (start b).1.Sound ∧ (start b).2.flatMap Piece.bytes ++ (start b).1.seen = [b] := by
  have hb := b.toNat_lt
  by_cases hascii : b.toNat < 0x80
  · rw [start_of_lt hascii]
    refine ⟨trivial, ?_⟩
    simp [Piece.bytes, State.seen, utf8EncodeChar_of_lt hascii]
  by_cases hbroken : b.toNat < 0xc2 ∨ 0xf5 ≤ b.toNat
  · rw [start_of_broken (by omega)]
    exact ⟨trivial, rfl⟩
  by_cases htwo : b.toNat < 0xe0
  · have hvalue : b.toNat = 0xc0 + (b.toNat - 0xc0) := by omega
    rw [start_two hvalue (by omega) (by omega)]
    exact ⟨sound_two hvalue (by omega) (by omega), rfl⟩
  by_cases hthree : b.toNat < 0xf0
  · have hvalue : b.toNat = 0xe0 + (b.toNat - 0xe0) := by omega
    rw [start_three hvalue (by omega)]
    exact ⟨sound_three hvalue (by omega), rfl⟩
  · have hvalue : b.toNat = 0xf0 + (b.toNat - 0xf0) := by omega
    rw [start_four hvalue (by omega)]
    exact ⟨sound_four hvalue (by omega), rfl⟩

theorem step_of_out_of_range {seen : Bytes} {value more low high : Nat} {b : UInt8}
    (h : ¬ (low ≤ b.toNat ∧ b.toNat ≤ high)) :
    step (.inside seen value more low high) b = ((start b).1, .broken seen :: (start b).2) := by
  rw [step, if_neg h]

/-- Reading a byte keeps a state sound, and the byte is either in a piece or held back. -/
theorem step_sound {s : State} (hs : s.Sound) (b : UInt8) :
    (step s b).1.Sound ∧
      (step s b).2.flatMap Piece.bytes ++ (step s b).1.seen = s.seen ++ [b] := by
  cases s with
  | boundary => exact start_sound b
  | inside seen value more low high =>
    obtain ⟨hmore, hlow, hhigh, hencode⟩ := hs
    by_cases hrange : low ≤ b.toNat ∧ b.toNat ≤ high
    · rw [step, if_pos hrange]
      obtain ⟨k, rfl⟩ : ∃ k, more = k + 1 := ⟨more - 1, by omega⟩
      -- The payload of `b` is the next digit of base 64 of whatever the sequence becomes.
      have hgoes : ∀ n, n / 64 ^ k = value * 64 + (b.toNat - 0x80) →
          Completes value (k + 1) low high n ∧ 0x80 + n / 64 ^ k % 64 = b.toNat := by
        intro n hn
        have hdigit : 0x80 + n / 64 ^ k % 64 = b.toNat := by rw [hn]; omega
        refine ⟨⟨?_, ?_, ?_⟩, hdigit⟩
        · rw [Nat.pow_succ, ← Nat.div_div_eq_div_mul, hn]
          omega
        · rw [Nat.add_sub_cancel]
          omega
        · rw [Nat.add_sub_cancel]
          omega
      have hbytes : ∀ n, n / 64 ^ k = value * 64 + (b.toNat - 0x80) →
          String.utf8EncodeChar (Char.ofNat n) = seen ++ [b] ++ continuation k n := by
        intro n hn
        obtain ⟨hcompletes, hdigit⟩ := hgoes n hn
        rw [hencode n hcompletes, continuation, ofNat_eq_of_toNat hdigit, List.append_assoc]
        rfl
      simp only
      split
      · next hlast =>
        obtain rfl : k = 0 := by omega
        refine ⟨trivial, ?_⟩
        have h := hbytes (value * 64 + (b.toNat - 0x80)) (by rw [Nat.pow_zero, Nat.div_one])
        simpa [Piece.bytes, State.seen, continuation] using h
      · next hlast =>
        refine ⟨⟨by omega, by omega, by omega, fun n hn => hbytes n ?_⟩, rfl⟩
        exact hn.1
    · obtain ⟨hnext, hbytes⟩ := start_sound b
      rw [step_of_out_of_range hrange]
      refine ⟨hnext, ?_⟩
      rw [List.flatMap_cons, List.append_assoc, hbytes]
      rfl

theorem flatMap_bytes_scanFrom {s : State} (hs : s.Sound) (bytes : Bytes) :
    (scanFrom s [] bytes).flatMap Piece.bytes = s.seen ++ bytes := by
  induction bytes generalizing s with
  | nil =>
    cases s with
    | boundary => rfl
    | inside => simp [scanFrom, State.finish, State.seen, Piece.bytes]
  | cons b bytes ih =>
    obtain ⟨hnext, hbytes⟩ := step_sound hs b
    rw [scanFrom_cons, List.flatMap_append, ih hnext, ← List.append_assoc, hbytes,
      List.append_assoc]
    rfl

theorem flatMap_bytes_scan (bytes : Bytes) : (scan bytes).flatMap Piece.bytes = bytes :=
  flatMap_bytes_scanFrom (s := .boundary) trivial bytes

/-! ## Reading an encoded text -/

theorem toNat_continuation (n k : Nat) :
    (UInt8.ofNat (0x80 + n / 64 ^ k % 64)).toNat = 0x80 + n / 64 ^ k % 64 := by
  rw [UInt8.toNat_ofNat']
  omega

/-- From inside a sequence, the bytes of what it can become complete it. -/
theorem scanFrom_continuation {seen : Bytes} {value more low high n : Nat} (hmore : 1 ≤ more)
    (hn : Completes value more low high n) (rest : Bytes) :
    scanFrom (.inside seen value more low high) [] (continuation more n ++ rest) =
      .scalar (Char.ofNat n) :: scanFrom .boundary [] rest := by
  induction more generalizing seen value low high with
  | zero => omega
  | succ k ih =>
    obtain ⟨hvalue, hlow, hhigh⟩ := hn
    rw [Nat.add_sub_cancel] at hlow hhigh
    have hdigit := toNat_continuation n k
    have hnext : value * 64 + (0x80 + n / 64 ^ k % 64 - 0x80) = n / 64 ^ k := by
      rw [Nat.pow_succ, ← Nat.div_div_eq_div_mul] at hvalue
      omega
    rw [continuation, List.cons_append, scanFrom_cons, step,
      if_pos (by rw [hdigit]; exact ⟨hlow, hhigh⟩)]
    simp only [hdigit, hnext]
    by_cases hk : k + 1 ≤ 1
    · obtain rfl : k = 0 := by omega
      rw [if_pos hk, Nat.pow_zero, Nat.div_one]
      rfl
    · rw [if_neg hk]
      exact ih (by omega) ⟨rfl, by omega, by omega⟩

/-- The first byte of a longer form begins a sequence that can become it. -/
theorem start_utf8EncodeChar {n : Nat} (hvalid : n.isValidChar) (hn : 0x80 ≤ n) :
    ∃ lead value more low high, 1 ≤ more ∧ Completes value more low high n ∧
      String.utf8EncodeChar (Char.ofNat n) = lead :: continuation more n ∧
      start lead = (.inside [lead] value more low high, []) := by
  have hlarge : n < 0x110000 := by rcases hvalid with h | h <;> omega
  by_cases htwo : n < 0x800
  · have hlead : (UInt8.ofNat (0xc0 + n / 64)).toNat = 0xc0 + n / 64 := by
      rw [UInt8.toNat_ofNat']
      omega
    refine ⟨_, n / 64, 1, _, _, by omega, ⟨?_, ?_, ?_⟩, utf8EncodeChar_two hn htwo,
      start_two hlead (by omega) (by omega)⟩
    · rw [Nat.pow_one]
    · omega
    · omega
  by_cases hthree : n < 0x10000
  · have hlead : (UInt8.ofNat (0xe0 + n / 4096)).toNat = 0xe0 + n / 4096 := by
      rw [UInt8.toNat_ofNat']
      omega
    refine ⟨_, n / 4096, 2, _, _, by omega, ⟨rfl, ?_, ?_⟩,
      utf8EncodeChar_three hvalid (by omega) hthree, start_three hlead (by omega)⟩
    · simp only [Nat.reducePow, Nat.reduceSub]
      split <;> omega
    · simp only [Nat.reducePow, Nat.reduceSub]
      rcases hvalid with h | h <;> split <;> omega
  · have hlead : (UInt8.ofNat (0xf0 + n / 262144)).toNat = 0xf0 + n / 262144 := by
      rw [UInt8.toNat_ofNat']
      omega
    refine ⟨_, n / 262144, 3, _, _, by omega, ⟨rfl, ?_, ?_⟩,
      utf8EncodeChar_four (by omega) hlarge, start_four hlead (by omega)⟩
    · simp only [Nat.reducePow, Nat.reduceSub]
      split <;> omega
    · simp only [Nat.reducePow, Nat.reduceSub]
      split <;> omega

theorem scanFrom_utf8EncodeChar (c : Char) (rest : Bytes) :
    scanFrom .boundary [] (String.utf8EncodeChar c ++ rest) =
      .scalar c :: scanFrom .boundary [] rest := by
  obtain ⟨n, hn⟩ : ∃ n, c.toNat = n := ⟨_, rfl⟩
  have hvalid : n.isValidChar := hn ▸ c.valid
  obtain rfl : c = Char.ofNat n := by rw [← hn, Char.ofNat_toNat]
  by_cases hascii : n < 0x80
  · have hbyte : (UInt8.ofNat n).toNat = n := by
      rw [UInt8.toNat_ofNat']
      omega
    rw [utf8EncodeChar_of_lt hascii, List.cons_append, List.nil_append, scanFrom_cons, step,
      start_of_lt (by omega), hbyte]
    rfl
  · obtain ⟨lead, value, more, low, high, hmore, hcompletes, hencode, hstart⟩ :=
      start_utf8EncodeChar hvalid (by omega)
    rw [hencode, List.cons_append, scanFrom_cons, step, hstart]
    exact scanFrom_continuation hmore hcompletes rest

theorem scanFrom_toBytes (t : Text) (rest : Bytes) :
    scanFrom .boundary [] (t.toBytes ++ rest) =
      t.map Piece.scalar ++ scanFrom .boundary [] rest := by
  induction t with
  | nil => rfl
  | cons c t ih =>
    show scanFrom .boundary [] (String.utf8EncodeChar c ++ Text.toBytes t ++ rest) = _
    rw [List.append_assoc, scanFrom_utf8EncodeChar, ih]
    rfl

/-! ## Cutting the input -/

/-- A byte that continues no sequence cuts the input in two that are read apart. -/
theorem scanFrom_append {s : State} (hs : s.Sound) (bytes : Bytes) {b : UInt8}
    (hb : b.toNat < 0x80 ∨ 0xbf < b.toNat) (rest : Bytes) :
    scanFrom s [] (bytes ++ b :: rest) =
      scanFrom s [] bytes ++ scanFrom .boundary [] (b :: rest) := by
  induction bytes generalizing s with
  | nil =>
    cases s with
    | boundary => rfl
    | inside seen value more low high =>
      obtain ⟨-, hlow, hhigh, -⟩ := hs
      rw [List.nil_append, scanFrom_cons, step_of_out_of_range (by omega), scanFrom_cons]
      rfl
  | cons b' bytes ih =>
    rw [List.cons_append, scanFrom_cons, ih (step_sound hs b').1, scanFrom_cons s b' bytes,
      List.append_assoc]

theorem utf8EncodeChar_eq_cons (c : Char) :
    ∃ b rest, String.utf8EncodeChar c = b :: rest ∧ (b.toNat < 0x80 ∨ 0xbf < b.toNat) := by
  obtain ⟨n, hn⟩ : ∃ n, c.toNat = n := ⟨_, rfl⟩
  have hvalid : n.isValidChar := hn ▸ c.valid
  obtain rfl : c = Char.ofNat n := by rw [← hn, Char.ofNat_toNat]
  by_cases hascii : n < 0x80
  · refine ⟨_, _, utf8EncodeChar_of_lt hascii, Or.inl ?_⟩
    rw [UInt8.toNat_ofNat']
    omega
  · obtain ⟨lead, value, more, low, high, -, -, hencode, hstart⟩ :=
      start_utf8EncodeChar hvalid (by omega)
    refine ⟨lead, _, hencode, Decidable.byContradiction fun hbetween => ?_⟩
    rw [start_of_broken (by omega)] at hstart
    cases hstart

theorem scan_append_toBytes {t : Text} (ht : t ≠ []) (pre post : Bytes) :
    scan (pre ++ (t.toBytes ++ post)) = scan pre ++ (t.map Piece.scalar ++ scan post) := by
  obtain ⟨c, u, rfl⟩ := List.exists_cons_of_ne_nil ht
  obtain ⟨b, rest, hencode, hb⟩ := utf8EncodeChar_eq_cons c
  have hbytes : Text.toBytes (c :: u) ++ post = b :: (rest ++ (Text.toBytes u ++ post)) := by
    show String.utf8EncodeChar c ++ Text.toBytes u ++ post = _
    rw [hencode, List.append_assoc]
    rfl
  rw [hbytes, scan, scanFrom_append (s := .boundary) trivial pre hb, ← hbytes, scanFrom_toBytes]
  rfl

theorem scan_toBytes (t : Text) : scan t.toBytes = t.map Piece.scalar := by
  have h := scanFrom_toBytes t []
  rw [List.append_nil] at h
  rw [scan, h]
  exact List.append_nil _

theorem map_toChar_scalar (t : Text) : (t.map Piece.scalar).map Piece.toChar = t := by
  rw [List.map_map]
  exact List.map_id t

theorem decodeLossy_toBytes (t : Text) : decodeLossy t.toBytes = t := by
  rw [decodeLossy, scan_toBytes, map_toChar_scalar]

theorem toBytes_inj {t u : Text} : t.toBytes = u.toBytes ↔ t = u := by
  refine ⟨fun h => ?_, fun h => by rw [h]⟩
  rw [← decodeLossy_toBytes t, h, decodeLossy_toBytes]

/-- Bytes are well formed if they are those of a text, which is then what they say. -/
theorem decode?_eq_some_iff {bytes : Bytes} {t : Text} :
    decode? bytes = some t ↔ t.toBytes = bytes := by
  simp only [decode?, Option.ite_none_right_eq_some, Option.some.injEq]
  constructor
  · rintro ⟨hbytes, rfl⟩
    exact hbytes
  · rintro rfl
    rw [decodeLossy_toBytes]
    exact ⟨rfl, rfl⟩

/-- A text in the middle of any bytes is decoded as itself, and the bytes on either side as if
they stood alone. -/
theorem decodeLossy_append_toBytes {t : Text} (ht : t ≠ []) (pre post : Bytes) :
    decodeLossy (pre ++ (t.toBytes ++ post)) = decodeLossy pre ++ (t ++ decodeLossy post) := by
  rw [decodeLossy, scan_append_toBytes ht, List.map_append, List.map_append, map_toChar_scalar]
  rfl

/-- The bytes of a text stand among those of another only where the text stands in the other, so
they never begin inside a character. -/
theorem exists_eq_append_of_toBytes {t marker : Text} (hm : marker ≠ []) {pre post : Bytes}
    (h : t.toBytes = pre ++ (marker.toBytes ++ post)) :
    ∃ s u, t = s ++ (marker ++ u) ∧ s.toBytes = pre := by
  have hscan : t.map Piece.scalar = scan pre ++ (marker.map Piece.scalar ++ scan post) := by
    rw [← scan_toBytes, h, scan_append_toBytes hm]
  obtain ⟨s, rest, rfl, hs, hrest⟩ := List.map_eq_append_iff.mp hscan
  obtain ⟨same, u, rfl, hsame, -⟩ := List.map_eq_append_iff.mp hrest
  obtain rfl : same = marker := (List.map_inj_right fun _ _ e => Piece.scalar.inj e).mp hsame
  refine ⟨s, u, rfl, ?_⟩
  calc Text.toBytes s = (s.map Piece.scalar).flatMap Piece.bytes := by rw [List.flatMap_map]; rfl
    _ = (scan pre).flatMap Piece.bytes := by rw [hs]
    _ = pre := flatMap_bytes_scan pre

/-- What is decoded without a replacement character was in the input. -/
theorem toBytes_infix_of_infix_decodeLossy {t : Text} (ht : '\ufffd' ∉ t) {bytes : Bytes}
    (h : t <:+: decodeLossy bytes) : t.toBytes <:+: bytes := by
  obtain ⟨u, v, huv⟩ := h
  obtain ⟨left, right, hscan, hleft, -⟩ := List.map_eq_append_iff.mp huv.symm
  obtain ⟨before, pieces, rfl, -, hpieces⟩ := List.map_eq_append_iff.mp hleft
  have hbytes : pieces.flatMap Piece.bytes = t.toBytes := by
    subst hpieces
    clear hscan hleft huv
    induction pieces with
    | nil => rfl
    | cons piece pieces ih =>
      rw [List.map_cons, List.mem_cons, not_or] at ht
      cases piece with
      | broken bytes => exact absurd rfl ht.1
      | scalar c =>
        rw [List.flatMap_cons, ih ht.2]
        rfl
  refine ⟨before.flatMap Piece.bytes, right.flatMap Piece.bytes, ?_⟩
  rw [← hbytes, ← List.flatMap_append, ← List.flatMap_append, ← hscan, flatMap_bytes_scan]

end Utf8
end SimReport
