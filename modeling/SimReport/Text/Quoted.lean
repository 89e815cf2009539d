/-
Quoted form, used wherever a path or a name stands inside a message: double
quotes around it, a backslash before a quote or a backslash, short escapes for
the common controls, and unprintable characters by number.
-/
import SimReport.Text.Numeral
import SimReport.Text.Unprintable
import SimReport.Text.Utf8

namespace SimReport
namespace Text

def lowerHex (n : Nat) : Text := Nat.toDigits 16 n

/-- How a character stands inside quotes. -/
def escapeChar (c : Char) : Text :=
  if c = '\x00' then ['\\', '0']
  else if c = '\t' then ['\\', 't']
  else if c = '\r' then ['\\', 'r']
  else if c = '\n' then ['\\', 'n']
  else if c = '\\' ∨ c = '"' then ['\\', c]
  else if isUnprintable c then ['\\', 'u', '\x7b'] ++ lowerHex c.toNat ++ ['\x7d']
  else [c]

def quoted (t : Text) : Text := ['"'] ++ t.flatMap escapeChar ++ ['"']

end Text

namespace Utf8

/-- A byte outside every scalar value stands as two upper-case hexadecimal digits. -/
def escapeByte (b : UInt8) : Text :=
  let digit (n : Nat) : Char := ((Nat.toDigits 16 n).headD '0').toUpper
  ['\\', 'x', digit (b.toNat / 16), digit (b.toNat % 16)]

def Piece.escaped : Piece → Text
  | .scalar c => Text.escapeChar c
  | .broken bytes => bytes.flatMap escapeByte

/-- The quoted form of a byte string, which shows each byte of a broken piece. -/
def quoted (bytes : Bytes) : Text := ['"'] ++ (scan bytes).flatMap Piece.escaped ++ ['"']

end Utf8
end SimReport
