/-
UTF-8 decoding that never fails.  The bytes are cut into scalar values and
broken pieces, a broken piece being the longest start of a well-formed sequence
that the following byte does not continue, or a byte that starts none.  One
byte is read at a time, so what a prefix of the input decodes to is a state.
-/
import SimReport.Text

namespace SimReport
namespace Utf8

inductive Piece
  | scalar (c : Char)
  | broken (bytes : Bytes)
  deriving DecidableEq

/-- Between two bytes the decoder is either at a boundary or inside a sequence:
then it holds the bytes seen, the value of their payload, how many bytes are
still to come, and the range of the next one. -/
inductive State
  | boundary
  | inside (seen : Bytes) (value more low high : Nat)
  deriving DecidableEq

/-- The state after a byte at a boundary, and the piece it completes.  The
ranges exclude overlong forms, surrogates and values above 0x10FFFF. -/
def start (b : UInt8) : State × List Piece :=
  let n := b.toNat
  if n < 0x80 then (.boundary, [.scalar (Char.ofNat n)])
  else if n < 0xc2 then (.boundary, [.broken [b]])
  else if n < 0xe0 then (.inside [b] (n - 0xc0) 1 0x80 0xbf, [])
  else if n = 0xe0 then (.inside [b] 0 2 0xa0 0xbf, [])
  else if n = 0xed then (.inside [b] 0xd 2 0x80 0x9f, [])
  else if n < 0xf0 then (.inside [b] (n - 0xe0) 2 0x80 0xbf, [])
  else if n = 0xf0 then (.inside [b] 0 3 0x90 0xbf, [])
  else if n < 0xf4 then (.inside [b] (n - 0xf0) 3 0x80 0xbf, [])
  else if n = 0xf4 then (.inside [b] 4 3 0x80 0x8f, [])
  else (.boundary, [.broken [b]])

/-- Reads one byte.  A byte that does not continue the sequence begun breaks it
and is read again at the boundary. -/
def step : State → UInt8 → State × List Piece
  | .boundary, b => start b
  | .inside seen value more low high, b =>
    if low ≤ b.toNat ∧ b.toNat ≤ high then
      let value := value * 64 + (b.toNat - 0x80)
      if more ≤ 1 then (.boundary, [.scalar (Char.ofNat value)])
      else (.inside (seen ++ [b]) value (more - 1) 0x80 0xbf, [])
    else
      let (next, pieces) := start b
      (next, .broken seen :: pieces)

/-- What the end of the input completes. -/
def State.finish : State → List Piece
  | .boundary => []
  | .inside seen _ _ _ _ => [.broken seen]

/-- Reads bytes from a state.  `done` holds the pieces completed before, the
latest first. -/
def scanFrom (state : State) (done : List Piece) : Bytes → List Piece
  | [] => done.reverse ++ state.finish
  | b :: bytes =>
    let (next, pieces) := step state b
    scanFrom next (pieces.reverse ++ done) bytes

def scan (bytes : Bytes) : List Piece := scanFrom .boundary [] bytes

/-- A broken piece is shown as one replacement character. -/
def Piece.toChar : Piece → Char
  | .scalar c => c
  | .broken _ => '\ufffd'

/-- The text of a byte string, with a replacement character for each broken piece. -/
def decodeLossy (bytes : Bytes) : Text := (scan bytes).map Piece.toChar

/-- The text of a byte string that is well formed. -/
def decode? (bytes : Bytes) : Option Text :=
  let t := decodeLossy bytes
  if t.toBytes = bytes then some t else none

theorem scanFrom_eq (state : State) (done : List Piece) (bytes : Bytes) :
    scanFrom state done bytes = done.reverse ++ scanFrom state [] bytes := by
  induction bytes generalizing state done with
  | nil => simp [scanFrom]
  | cons b bytes ih =>
    simp only [scanFrom]
    rw [ih, ih _ ((step state b).2.reverse ++ [])]
    simp

/-- Reading a byte emits its pieces and goes on from the next state. -/
theorem scanFrom_cons (state : State) (b : UInt8) (bytes : Bytes) :
    scanFrom state [] (b :: bytes) = (step state b).2 ++ scanFrom (step state b).1 [] bytes := by
  simp only [scanFrom, List.append_nil]
  rw [scanFrom_eq, List.reverse_reverse]

end Utf8
end SimReport
