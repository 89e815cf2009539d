/-
Unsigned numerals.  Reading takes blanks around the digits, one plus sign, and
in base sixteen one `0x` in front of the sign; a value of 2^64 or more is
refused whatever its length, so leading zeros never matter.
-/
import SimReport.Text.Blank

namespace SimReport

/-- A base in which digits and letters suffice as digit signs. -/
structure Radix where
  base : Nat
  two_le : 2 ≤ base
  le_thirtySix : base ≤ 36
  deriving DecidableEq

namespace Radix

def ofNat? (n : Nat) : Option Radix :=
  if h : 2 ≤ n ∧ n ≤ 36 then some ⟨n, h.1, h.2⟩ else none

def decimal : Radix := ⟨10, by decide, by decide⟩

def hexadecimal : Radix := ⟨16, by decide, by decide⟩

/-- The value of a digit sign.  The case of a letter does not matter. -/
def digit? (r : Radix) (c : Char) : Option Nat :=
  let value :=
    if '0' ≤ c ∧ c ≤ '9' then some (c.toNat - '0'.toNat)
    else if 'a' ≤ c ∧ c ≤ 'z' then some (c.toNat - 'a'.toNat + 10)
    else if 'A' ≤ c ∧ c ≤ 'Z' then some (c.toNat - 'A'.toNat + 10)
    else none
  value.filter (· < r.base)

theorem digit?_lt {r : Radix} {c : Char} {d : Nat} (h : r.digit? c = some d) : d < r.base := by
  simp only [digit?, Option.filter_eq_some_iff] at h
  simpa using h.2

end Radix

namespace Text

/-- The value of a string of digits, the first being the most significant. -/
def digitsValue? (r : Radix) (t : Text) : Option Nat :=
  t.foldlM (fun value c => (r.digit? c).map (value * r.base + ·)) 0

def natural? (r : Radix) (t : Text) : Option Nat :=
  if t.isEmpty then none else digitsValue? r t

def dropPlus : Text → Text
  | '+' :: t => t
  | t => t

def dropHexMark : Text → Text
  | '0' :: 'x' :: t => t
  | '0' :: 'X' :: t => t
  | t => t

/-- The word with the given value, if there is one. -/
def word? (n : Nat) : Option UInt64 :=
  if h : n < UInt64.size then some (UInt64.ofNatLT n h) else none

def readWord? (r : Radix) (t : Text) : Option UInt64 :=
  let body := if r.base = 16 then dropHexMark t.trim else t.trim
  (natural? r (dropPlus body)).bind word?

/-- The decimal numeral of a number, without leading zeros. -/
def ofNat (n : Nat) : Text := Nat.toDigits 10 n

theorem word?_eq_some_iff {n : Nat} {w : UInt64} : word? n = some w ↔ w.toNat = n := by
  unfold word?
  split
  · next h =>
    constructor
    · intro e; cases e; exact UInt64.toNat_ofNatLT ..
    · intro e; subst e; simp
  · next h =>
    simp only [reduceCtorEq, false_iff]
    intro e
    exact h (e ▸ w.toNat_lt)

end Text
end SimReport
