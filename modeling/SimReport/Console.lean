/-
The console summary.  Lines are texts, printing appends them to what was
written, and a sink that takes only so many bytes refuses the first line that
does not fit.
-/
import SimReport.Binary64.Fixed
import SimReport.Failure
import SimReport.Results

namespace SimReport

inductive Colour
  | green
  | red
  deriving DecidableEq

namespace Colour

def start : Colour → Text
  | green => "\x1b[32m".toList
  | red => "\x1b[31m".toList

def stop : Text := "\x1b[0m".toList

/-- Puts `colour` after each end of colour, so that the text stays painted to
its end. -/
def resume (colour : Text) : Text → Text
  | '\x1b' :: '[' :: '0' :: 'm' :: t => stop ++ colour ++ resume colour t
  | c :: t => c :: resume colour t
  | [] => []

def paint (colour : Colour) (t : Text) : Text := colour.start ++ resume colour.start t ++ stop

end Colour

/-- The console's own wish for colour, and whether its terminal shows any. -/
structure Palette where
  wanted : Bool
  shown : Bool
  deriving DecidableEq

namespace Palette

def paint (palette : Palette) (colour : Colour) (t : Text) : Text :=
  if palette.wanted && palette.shown then colour.paint t else t

end Palette

/-- Widths count characters. -/
def padLeft (width : Nat) (t : Text) : Text := List.replicate (width - t.length) ' ' ++ t

def padRight (width : Nat) (t : Text) : Text := t ++ List.replicate (width - t.length) ' '

namespace Line

def header (suite : Text) : Text := "Benchmark summary (".toList ++ suite ++ "):\n".toList

def tag (palette : Palette) (succeeded : Bool) : Text :=
  if succeeded then palette.paint .green "SUCCESS".toList
  else palette.paint .red "FAILURE".toList

/-- The line of a benchmark.  Benchmarks count from one. -/
def benchmark (palette : Palette) (index : Nat) (row : Row) : Text :=
  padLeft 4 (Text.ofNat index) ++ ") ".toList ++ padRight 15 row.id ++ ": ".toList ++
    tag palette row.succeeded ++ " (IPC=".toList ++ row.metrics.ipc.toFixed ++ ")\n".toList

def benchmarks (palette : Palette) (rows : List Row) : List Text :=
  (rows.zipIdx 1).map fun (row, index) => benchmark palette index row

def summary (passed total : Nat) : Text :=
  "Correctly executed testbenches ".toList ++ Text.ofNat passed ++ " out of ".toList ++
    Text.ofNat total ++ ".\n".toList

def failures (palette : Palette) (ids : List Text) : Text :=
  palette.paint .red ("Failed tests: ".toList ++ Text.joinWith ", ".toList ids ++ ['.']) ++ ['\n']

def saving (directory : Path) : Text :=
  "Saving the csv report to ".toList ++ directory.display ++ ".\n".toList

end Line

/-- A console with the text written to it so far.  `room` is the number of bytes
that its sink still takes, if there is a limit. -/
structure Console where
  palette : Palette
  room : Option Nat := none
  text : Text := []
  deriving DecidableEq

namespace Console

def print (console : Console) (line : Text) : Except Failure Console :=
  let written := { console with text := console.text ++ line }
  match console.room with
  | none => .ok written
  | some room =>
    if line.byteLength ≤ room then .ok { written with room := some (room - line.byteLength) }
    else .error ⟨[.writeLine], .sinkFull⟩

/-- Prints lines until one is refused. -/
def printAll (console : Console) : List Text → Except Failure Console
  | [] => .ok console
  | line :: lines =>
    match console.print line with
    | .error e => .error e
    | .ok console => console.printAll lines

end Console
end SimReport
