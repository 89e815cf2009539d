/-
Double precision numbers as exact magnitudes.  A finite number is a natural
significand times a power of two, so rounding is integer division with a rule
for the remainder and no property of machine arithmetic is assumed.  Powers are
written by name, because the sign for them belongs to monoids in algebra.
-/
import SimReport.Text

namespace SimReport

/-- The magnitude of `finite` is `significand * 2 ^ exponent`. -/
inductive Binary64
  | finite (negative : Bool) (significand : Nat) (exponent : Int)
  | infinite (negative : Bool)
  | nan
  deriving DecidableEq

/-- The integer nearest to `num / den`.  A quotient halfway between two integers
goes to the even one. -/
def roundHalfEven (num den : Nat) : Nat :=
  let quotient := num / den
  let remainder := num % den
  if 2 * remainder < den then quotient
  else if den < 2 * remainder then quotient + 1
  else quotient + quotient % 2

/-- `num / 2 ^ exponent` as a quotient of naturals over `den`. -/
def scaleDown (num den : Nat) (exponent : Int) : Nat × Nat :=
  if 0 ≤ exponent then (num, den * Nat.pow 2 exponent.toNat)
  else (num * Nat.pow 2 (-exponent).toNat, den)

namespace Binary64

def zero : Binary64 := .finite false 0 (-1074)

/-- The number with the given bits: a sign, an eleven-bit exponent and a
fraction of 52 bits, to which every exponent but the least adds a leading one. -/
def ofBits (bits : UInt64) : Binary64 :=
  let negative := bits.toNat / Nat.pow 2 63 == 1
  let field : Nat := bits.toNat / Nat.pow 2 52 % Nat.pow 2 11
  let fraction := bits.toNat % Nat.pow 2 52
  if field = 2047 then (if fraction = 0 then .infinite negative else .nan)
  else if field = 0 then .finite negative fraction (-1074)
  else .finite negative (Nat.pow 2 52 + fraction) (field - 1075)

def signBit (negative : Bool) : Nat := if negative then Nat.pow 2 63 else 0

/-- The bits of a number, for a finite one with at most 53 bits of significand
and an exponent from -1074 to 971. -/
def toBits : Binary64 → UInt64
  | .nan => .ofNat (2047 * Nat.pow 2 52 + Nat.pow 2 51)
  | .infinite negative => .ofNat (signBit negative + 2047 * Nat.pow 2 52)
  | .finite negative significand exponent =>
    let shift := min (52 - significand.log2) (exponent + 1074).toNat
    let m := significand * Nat.pow 2 shift
    let field := if m < Nat.pow 2 52 then 0 else (exponent - shift + 1075).toNat
    .ofNat (signBit negative + field * Nat.pow 2 52 + m % Nat.pow 2 52)

/-- The exponent of the last of the 53 significant places of `num / den`.  It
is never below that of the least double. -/
def lastPlace (num den : Nat) : Int :=
  let guess : Int := num.log2 - den.log2
  let (n, d) := scaleDown num den guess
  max (if d ≤ n then guess - 52 else guess - 53) (-1074)

/-- The double nearest to `num / den`, of two equally near the one with even
significand. -/
def ofQuotient (num den : Nat) : Binary64 :=
  let exponent := lastPlace num den
  let (n, d) := scaleDown num den exponent
  let m := roundHalfEven n d
  if num = 0 then zero
  else if m = Nat.pow 2 53 then
    (if exponent < 971 then .finite false (Nat.pow 2 52) (exponent + 1) else .infinite false)
  else if exponent ≤ 971 then .finite false m exponent else .infinite false

def nearestInteger (n : Nat) : Nat :=
  let unit := Nat.pow 2 (n.log2 - 52)
  roundHalfEven n unit * unit

end Binary64

@[simp] theorem roundHalfEven_one (n : Nat) : roundHalfEven n 1 = n := by
  simp [roundHalfEven, Nat.mod_one]

/-- The rounded quotient is within half a unit. -/
theorem roundHalfEven_near (num : Nat) {den : Nat} (h : 0 < den) :
    2 * num ≤ 2 * (roundHalfEven num den * den) + den ∧
      2 * (roundHalfEven num den * den) ≤ 2 * num + den := by
  have hdiv := Nat.div_add_mod num den
  have hlt := Nat.mod_lt num h
  have hcomm : den * (num / den) = num / den * den := Nat.mul_comm _ _
  simp only [roundHalfEven]
  split
  · omega
  · split
    · rw [Nat.add_mul]; omega
    · rcases Nat.mod_two_eq_zero_or_one (num / den) with h2 | h2 <;> rw [h2, Nat.add_mul] <;> omega

/-- A quotient exactly halfway between two integers rounds to an even one. -/
theorem roundHalfEven_even_of_tie {num den : Nat} (h : 2 * (num % den) = den) :
    roundHalfEven num den % 2 = 0 := by
  simp only [roundHalfEven, h, Nat.lt_irrefl, if_false]
  omega

end SimReport
