/-
What is a pattern.  Reading one keeps no more of it than its depth, since
patterns are never run here: the question is only whether a text is one.
-/
import SimReport.Pattern.Class
import SimReport.Text.Alphanumeric

namespace SimReport
namespace Pattern

/-- A part of a pattern, which can be repeated if it is not a setting of flags. -/
structure Part where
  depth : Nat := 0
  isSetting : Bool := false
  deriving DecidableEq

/-- A group that is open: its finished branches, the parts of the one that is
being read, the last first, and the mode outside the group. -/
structure OpenGroup where
  branches : List Nat := []
  parts : List Part := []
  outside : Mode := {}
  deriving DecidableEq

namespace OpenGroup

def add (g : OpenGroup) (part : Part) : OpenGroup := { g with parts := part :: g.parts }

def branchDepth (g : OpenGroup) : Nat := depthOf (g.parts.map (·.depth))

def branch (g : OpenGroup) : OpenGroup :=
  { g with branches := g.branchDepth :: g.branches, parts := [] }

def depth (g : OpenGroup) : Nat := depthOf (g.branchDepth :: g.branches)

/-- Repeats the last part, which makes it a level deeper. -/
def repeatLast? (g : OpenGroup) : Option OpenGroup :=
  match g.parts with
  | [] => none
  | last :: parts =>
    if last.isSetting then none else some { g with parts := { depth := last.depth + 1 } :: parts }

end OpenGroup

/-- How far a pattern has been read. -/
structure Progress where
  mode : Mode := {}
  names : List Text := []
  group : OpenGroup := {}
  outer : List OpenGroup := []
  deriving DecidableEq

namespace Progress

def add (p : Progress) (part : Part) : Progress := { p with group := p.group.add part }

def enter (p : Progress) (mode : Mode) : Progress :=
  { p with mode, group := { outside := p.mode }, outer := p.group :: p.outer }

/-- Closes a group, and with it the modes that were set inside. -/
def leave? (p : Progress) : Option Progress :=
  match p.outer with
  | [] => none
  | parent :: outer =>
    let part : Part := { depth := p.group.depth + 1 }
    some { p with mode := p.group.outside, group := parent.add part, outer }

end Progress

/-- Names of groups begin with a letter or a low line. -/
def isName : Text → Bool
  | [] => false
  | c :: t =>
    (c == '_' || Text.isAlphabetic c) &&
      t.all fun c => "_.[]".toList.contains c || Text.isAlphanumeric c

/-- A name up to the sign that ends it.  No two groups have one name. -/
def enterNamed? (p : Progress) (t : Text) : Option (Progress × Text) :=
  let name := t.takeWhile (· != '>')
  match t.dropWhile (· != '>') with
  | _ :: rest =>
    if isName name && !p.names.contains name then
      some ({ p with names := name :: p.names }.enter p.mode, rest)
    else none
  | [] => none

/-- Flags up to the sign that ends them: they hold inside a group, or from here on. -/
def enterFlagged? (p : Progress) (t : Text) : Option (Progress × Text) :=
  let flags := t.takeWhile fun c => c != ':' && c != ')'
  let mode := p.mode.apply flags
  if Mode.areFlags flags then
    match t.dropWhile fun c => c != ':' && c != ')' with
    | ':' :: rest => some (p.enter mode, rest)
    | _ :: rest =>
      if flags.isEmpty then none else some ({ p with mode }.add { isSetting := true }, rest)
    | [] => none
  else none

/-- The group behind an opening bracket. -/
def enterGroup? (p : Progress) (t : Text) : Option (Progress × Text) :=
  match p.mode.skip t with
  | '?' :: 'P' :: '<' :: t | '?' :: '<' :: t => enterNamed? p t
  | '?' :: t => enterFlagged? p t
  | t => some (p.enter p.mode, t)

def allowsAtom (m : Mode) : Atom → Bool
  | .character c isByte => m.allows c isByte
  | .shorthand isNegated => m.allowsShorthand isNegated
  | .edge => true
  | .wordEdge => m.allowsWordEdge

/-- One step of reading.  A repetition may ask for as little as possible.  A counted
one is always a fault: a pattern stands in braces, and ends where it would. -/
def Progress.step? (p : Progress) : Text → Option (Progress × Text)
  | [] => none
  | c :: t =>
    if c = '(' then enterGroup? p t
    else if c = ')' then p.leave?.map (·, t)
    else if c = '|' then some ({ p with group := p.group.branch }, t)
    else if c = '[' then (readClass p.mode t).map fun (depth, t) => (p.add { depth }, t)
    else if c = '*' ∨ c = '+' ∨ c = '?' then
      let rest := if t.head? = some '?' then t.tail else t
      p.group.repeatLast?.map fun group => ({ p with group }, rest)
    else if c = '{' then none
    else if c = '\\' then do
      let (atom, t) ← readEscape p.mode t
      if allowsAtom p.mode atom then some (p.add {}, t) else none
    else if c = '.' then if p.mode.allowsDot then some (p.add {}, t) else none
    else if c = '^' ∨ c = '$' then some (p.add {}, t)
    else if p.mode.allows c false then some (p.add {}, t)
    else none

def readFrom : Nat → Progress → Text → Option Nat
  | 0, _, _ => none
  | fuel + 1, p, t =>
    match p.mode.skip t with
    | [] => if p.outer.isEmpty then some p.group.depth else none
    | t => (p.step? t).bind fun (p, t) => readFrom fuel p t

/-- The depth of the pattern that the text is, if it is one.  Each step takes a
character. -/
def depth? (t : Text) : Option Nat := readFrom (t.length + 1) {} t

def maximalDepth : Nat := 250

end Pattern

/-- Whether the text is a pattern, and one that is not nested too deeply. -/
def Text.isPattern (t : Text) : Bool := (Pattern.depth? t).any (· ≤ Pattern.maximalDepth)

end SimReport
