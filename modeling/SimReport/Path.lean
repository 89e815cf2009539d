/-
Paths are byte strings, taken apart at their separators.
-/
import SimReport.Text.Quoted

namespace SimReport

abbrev Path := Bytes

namespace Path

def separator : UInt8 := 0x2f

def dot : Bytes := [0x2e]

def dotDot : Bytes := [0x2e, 0x2e]

def ofText (t : Text) : Path := t.toBytes

def isAbsolute (p : Path) : Bool := p.head? == some separator

/-- The pieces between separators, empty ones included. -/
def pieces : Path → List Bytes
  | [] => [[]]
  | b :: rest =>
    if b = separator then [] :: pieces rest
    else
      match pieces rest with
      | [] => [[b]]
      | piece :: others => (b :: piece) :: others

/-- The pieces that name something: empty ones and single dots do not. -/
def names (p : Path) : List Bytes := p.pieces.filter fun piece => piece ≠ [] ∧ piece ≠ dot

/-- The last name.  There is none for a path that ends in two dots or names
nothing. -/
def fileName? (p : Path) : Option Bytes := p.names.getLast?.filter (· ≠ dotDot)

/-- `rest` taken from the directory `p`.  An absolute `rest` stands on its own. -/
def join (p rest : Path) : Path :=
  if rest.isAbsolute then rest
  else if p = [] ∨ p.getLast? = some separator then p ++ rest
  else p ++ separator :: rest

/-- The path and the directories above it, innermost first. -/
def ancestors (p : Path) : List Path :=
  let root : Path := if p.isAbsolute then [separator] else []
  let up := fun (above : List Path) name => (above.headD root).join name :: above
  p.names.foldl up []

/-- The path as text, with a replacement character for each broken piece. -/
def display (p : Path) : Text := Utf8.decodeLossy p

def quoted (p : Path) : Text := Utf8.quoted p

end Path
end SimReport
