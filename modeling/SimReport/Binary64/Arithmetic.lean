/-
Sums and quotients of numbers that are finite and not negative, each rounded
once, and the order of such numbers.
-/
import SimReport.Binary64

namespace SimReport
namespace Binary64

/-- The magnitude as a quotient of naturals.  What is not finite counts as zero. -/
def magnitude : Binary64 → Nat × Nat
  | .finite _ significand exponent => scaleDown significand 1 (-exponent)
  | _ => (0, 1)

def plus (x y : Binary64) : Binary64 :=
  let (a, b) := x.magnitude
  let (c, d) := y.magnitude
  ofQuotient (a * d + c * b) (b * d)

def part (x : Binary64) (n : Nat) : Binary64 :=
  let (a, b) := x.magnitude
  ofQuotient a (b * n)

def below (x y : Binary64) : Bool :=
  let (a, b) := x.magnitude
  let (c, d) := y.magnitude
  a * d < c * b

end Binary64
end SimReport
