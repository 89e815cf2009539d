/-
The modes of a pattern.  Patterns are built without tables of Unicode, so case
is folded, and classes are named by a letter, over ASCII only.  And they must
not match inside a character, so over single bytes nothing is allowed that could
match a byte of 0x80 or more.
-/
import SimReport.Text.Blank

namespace SimReport
namespace Pattern

structure Mode where
  foldsCase : Bool := false
  /-- Characters are matched, and not single bytes. -/
  unicode : Bool := true
  /-- Blanks and comments in the pattern are left out. -/
  isSpaced : Bool := false
  deriving DecidableEq

namespace Mode

/-- The other flags have no bearing on what is a pattern. -/
def set (m : Mode) (flag : Char) (on : Bool) : Mode :=
  if flag = 'i' then { m with foldsCase := on }
  else if flag = 'u' then { m with unicode := on }
  else if flag = 'x' then { m with isSpaced := on }
  else m

def setAll (m : Mode) (on : Bool) (flags : Text) : Mode :=
  flags.foldl (fun m flag => m.set flag on) m

/-- Flags behind a hyphen are cleared. -/
def apply (m : Mode) (flags : Text) : Mode :=
  (m.setAll true (flags.takeWhile (· != '-'))).setAll false (flags.dropWhile (· != '-'))

/-- No flag stands twice, and a hyphen has flags behind it. -/
def areFlags (t : Text) : Bool :=
  t.all ("imsUuRx-".toList.contains ·) && decide t.Nodup && t.getLast? != some '-'

/-- A character by itself.  One written as a byte has to be ASCII over bytes. -/
def allows (m : Mode) (c : Char) (isByte : Bool) : Bool :=
  if m.unicode then !m.foldsCase else !isByte || c.toNat < 0x80

/-- A character as a member of a class. -/
def allowsMember (m : Mode) (c : Char) : Bool :=
  if m.unicode then !m.foldsCase else c.toNat < 0x80

/-- A class named by a word. -/
def allowsNamed (m : Mode) (isNegated : Bool) : Bool :=
  if m.unicode then !m.foldsCase else !isNegated

/-- A class named by a letter. -/
def allowsShorthand (m : Mode) (isNegated : Bool) : Bool := !m.unicode && !isNegated

def allowsNegation (m : Mode) : Bool := m.unicode

def allowsDot (m : Mode) : Bool := m.unicode

def allowsWordEdge (m : Mode) : Bool := !m.unicode

end Mode

/-- The text behind blanks and comments.  A comment runs to the end of its line. -/
def skipFrom (inComment : Bool) : Text → Text
  | [] => []
  | c :: t =>
    if inComment then skipFrom (c != '\n') t
    else if Text.isBlank c then skipFrom false t
    else if c = '#' then skipFrom true t
    else c :: t

def Mode.skip (m : Mode) (t : Text) : Text := if m.isSpaced then skipFrom false t else t

/-- The next character behind blanks and one sign of a comment, if any stands
there, or else the very next. -/
def Mode.peek? (m : Mode) (t : Text) : Option Char :=
  if m.isSpaced then
    match t.dropWhile Text.isBlank with
    | '#' :: rest => (rest.dropWhile Text.isBlank).head?.or t.head?
    | rest => rest.head?.or t.head?
  else t.head?

/-- The depth of parts that stand side by side: several are one level deeper
than the deepest of them. -/
def depthOf : List Nat → Nat
  | [] => 0
  | [depth] => depth
  | depths => depths.foldl max 0 + 1

end Pattern
end SimReport
