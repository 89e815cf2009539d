/-
Numbers with two decimals: the exact value rounded to hundredths, never an
exponent.  The sign of a negative number stays even if only zeros follow it.
-/
import SimReport.Binary64
import SimReport.Text.Numeral

namespace SimReport
namespace Binary64

/-- The number of hundredths nearest to `significand * 2 ^ exponent`. -/
def hundredths (significand : Nat) (exponent : Int) : Nat :=
  let (n, d) := scaleDown (100 * significand) 1 (-exponent)
  roundHalfEven n d

def pointed (hundredths : Nat) : Text :=
  Text.ofNat (hundredths / 100) ++ ['.', Nat.digitChar (hundredths / 10 % 10),
    Nat.digitChar (hundredths % 10)]

def signText (negative : Bool) : Text := if negative then ['-'] else []

def toFixed : Binary64 → Text
  | .nan => "NaN".toList
  | .infinite negative => signText negative ++ "inf".toList
  | .finite negative significand exponent =>
    signText negative ++ pointed (hundredths significand exponent)

end Binary64
end SimReport
