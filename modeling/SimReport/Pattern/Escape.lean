/-
Escapes in a pattern: what a backslash and the characters behind it stand for.
-/
import SimReport.Pattern.Mode
import SimReport.Text.Numeral

namespace SimReport
namespace Pattern

/-- One element of a pattern.  A character may be written as the number of a byte. -/
inductive Atom
  | character (c : Char) (isByte : Bool)
  | shorthand (isNegated : Bool)
  | edge
  | wordEdge
  deriving DecidableEq

/-- Every sign of ASCII stands for itself but the two that are edges of words. -/
def isSign (c : Char) : Bool :=
  c.toNat < 0x80 && !c.isAlphanum && c != '<' && c != '>'

def controlLetters : List (Char × Char) :=
  [('a', '\x07'), ('f', '\x0c'), ('t', '\t'), ('n', '\n'), ('r', '\r'), ('v', '\x0b')]

/-- The number of digits behind a letter that begins a character's number. -/
def numberLetters : List (Char × Nat) := [('x', 2), ('u', 4), ('U', 8)]

/-- The value of so many digits in base sixteen. -/
def readDigits (m : Mode) : Nat → Nat → Text → Option (Nat × Text)
  | 0, value, t => some (value, t)
  | count + 1, value, t =>
    match m.skip t with
    | [] => none
    | c :: t => (Radix.hexadecimal.digit? c).bind fun d => readDigits m count (value * 16 + d) t

/-- The atom behind a backslash.  Classes of Unicode by property do not exist. -/
def readEscape (m : Mode) : Text → Option (Atom × Text)
  | [] => none
  | c :: t =>
    match numberLetters.lookup c, controlLetters.lookup c with
    | some count, _ => do
      let (value, t) ← readDigits m count 0 t
      if value.isValidChar then some (.character (.ofNat value) (c == 'x'), t) else none
    | none, some control => some (.character control false, t)
    | none, none =>
      if isSign c then some (.character c false, t)
      else if "dsw".toList.contains c then some (.shorthand false, t)
      else if "DSW".toList.contains c then some (.shorthand true, t)
      else if "Az".toList.contains c then some (.edge, t)
      else if "bB<>".toList.contains c then some (.wordEdge, t)
      else none

end Pattern
end SimReport
