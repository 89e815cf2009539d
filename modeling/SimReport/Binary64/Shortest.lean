/-
The shortest decimal that reads back as the same double: of the decimals in the
interval that rounds to the number, one with the fewest digits, and of those the
nearest.  The interval contains its ends exactly when the significand is even.
-/
import SimReport.Binary64.Fixed

namespace SimReport
namespace Binary64

/-- The reals that round to a number, and the number itself, in units of
`1 / unit`. -/
structure Neighbourhood where
  low : Nat
  value : Nat
  high : Nat
  unit : Nat
  closed : Bool

/-- Half the gap to the next number lies above.  Below it is half of that where
the exponent changes. -/
def neighbourhood (significand : Nat) (exponent : Int) : Neighbourhood :=
  let below := if significand = Nat.pow 2 52 ∧ -1074 < exponent then 1 else 2
  let factor := Nat.pow 2 (exponent - 2).toNat
  { low := (4 * significand - below) * factor
    value := 4 * significand * factor
    high := (4 * significand + 2) * factor
    unit := Nat.pow 2 (2 - exponent).toNat
    closed := significand % 2 == 0 }

/-- The exponent of ten of the first significant digit of a positive `num / den`. -/
def leadingPlace (num den : Nat) : Int :=
  if den ≤ num then (Nat.toDigits 10 (num / den)).length - 1
  else
    match (List.range 400).find? fun j => den ≤ num * Nat.pow 10 j with
    | some j => -j
    | none => 0

/-- Does `count * 10 ^ place` round to the number? -/
def Neighbourhood.contains (n : Neighbourhood) (count : Nat) (place : Int) : Bool :=
  let x := count * Nat.pow 10 place.toNat * n.unit
  let scale := Nat.pow 10 (-place).toNat
  if n.closed then n.low * scale ≤ x && x ≤ n.high * scale
  else n.low * scale < x && x < n.high * scale

/-- The multiple of `10 ^ place` that rounds to the number, if one does.  Of
two the nearer is taken, and of two equally near the greater. -/
def Neighbourhood.onGrid? (n : Neighbourhood) (place : Int) : Option Nat :=
  let num := n.value * Nat.pow 10 (-place).toNat
  let den := n.unit * Nat.pow 10 place.toNat
  let down := num / den
  let up := down + 1
  match n.contains down place, n.contains up place with
  | true, true => if 2 * (num % den) < den then some down else some up
  | true, false => some down
  | false, true => some up
  | false, false => none

/-- The digits of the shortest decimal and the exponent of ten of the first. -/
def shortest (significand : Nat) (exponent : Int) : Text × Int :=
  let n := neighbourhood significand exponent
  let lead := leadingPlace n.value n.unit
  let found := (List.range 17).findSome? fun extra =>
    let place := lead - (extra : Nat)
    (n.onGrid? place).map fun count => (count, place)
  let (count, place) := found.getD (0, lead)
  let digits := Text.ofNat count
  ((digits.reverse.dropWhile (· == '0')).reverse, place + digits.length - 1)

/-- Digits with the point after the place of 10^0, and zeros up to it. -/
def positional (digits : Text) (lead : Int) : Text :=
  if lead < 0 then "0.".toList ++ List.replicate (-lead - 1).toNat '0' ++ digits
  else
    let whole := (lead + 1).toNat
    let decimals := digits.drop whole
    digits.take whole ++ List.replicate (whole - digits.length) '0' ++ ['.'] ++
      (if decimals.isEmpty then ['0'] else decimals)

/-- Digits with the point after the first, and the exponent of ten. -/
def scientific (digits : Text) (lead : Int) : Text :=
  let decimals := digits.drop 1
  digits.take 1 ++ (if decimals.isEmpty then [] else '.' :: decimals) ++ ['e'] ++
    signText (lead < 0) ++ Text.ofNat lead.natAbs

/-- Numbers from 10^-4 up to 10^16 are written without exponent and with at
least one decimal. -/
def toShortest : Binary64 → Text
  | .nan => "NaN".toList
  | .infinite negative => signText negative ++ "inf".toList
  | .finite negative significand exponent =>
    let (digits, lead) := if significand = 0 then (['0'], 0) else shortest significand exponent
    signText negative ++
      (if -4 ≤ lead ∧ lead < 16 then positional digits lead else scientific digits lead)

end Binary64
end SimReport
