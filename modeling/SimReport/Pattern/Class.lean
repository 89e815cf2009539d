/-
Classes of characters in brackets.  Classes nest, have ranges and named classes
as members, and are combined by three operators of two signs each.
-/
import SimReport.Pattern.Escape

namespace SimReport
namespace Pattern

/-- A class that is open: the depths of its members since the last operator, and
the depth of what stands before that operator. -/
structure OpenClass where
  members : List Nat := []
  left : Option Nat := none
  /-- Nothing but hyphens stands behind the opening. -/
  atStart : Bool := true
  deriving DecidableEq

namespace OpenClass

def add (o : OpenClass) (depth : Nat) : OpenClass :=
  { o with members := depth :: o.members, atStart := false }

def addHyphen (o : OpenClass) : OpenClass := { o with members := 0 :: o.members }

/-- An operator is a level above its two sides. -/
def depth (o : OpenClass) : Nat :=
  match o.left with
  | none => depthOf o.members
  | some left => max left (depthOf o.members) + 1

def operate (o : OpenClass) : OpenClass := { left := some o.depth, atStart := false }

end OpenClass

def classNames : List Text :=
  ["alnum", "alpha", "ascii", "blank", "cntrl", "digit", "graph", "lower", "print", "punct",
    "space", "upper", "word", "xdigit"].map String.toList

/-- A named class behind an opening bracket: whether it is negated, and the rest. -/
def readNamed? (t : Text) : Option (Bool × Text) :=
  match t with
  | ':' :: t =>
    let isNegated := t.head? = some '^'
    let t := if isNegated then t.tail else t
    match t.dropWhile (· != ':') with
    | ':' :: ']' :: rest =>
      if classNames.contains (t.takeWhile (· != ':')) then some (isNegated, rest) else none
    | _ => none
  | _ => none

/-- A class behind its opening bracket, which may be negated. -/
def openClass (m : Mode) (t : Text) : Option Text :=
  match m.skip t with
  | '^' :: t => if m.allowsNegation then some t else none
  | t => some t

def readMemberAtom (m : Mode) : Text → Option (Atom × Text)
  | [] => none
  | '\\' :: t => readEscape m t
  | c :: t => some (.character c false, t)

/-- A member by itself is a character or a shorthand. -/
def allowsSingle (m : Mode) : Atom → Bool
  | .character c _ => m.allowsMember c
  | .shorthand isNegated => m.allowsShorthand isNegated
  | .edge | .wordEdge => false

/-- A range goes upwards, from a character to a character. -/
def allowsRange (m : Mode) : Atom → Atom → Bool
  | .character first _, .character last _ =>
    m.allowsMember first && m.allowsMember last && first ≤ last
  | _, _ => false

/-- A member that is no class itself, and the rest.  A hyphen makes a range,
unless a bracket or a hyphen closes behind it. -/
def readMember (m : Mode) (t : Text) : Option Text := do
  let (first, t) ← readMemberAtom m t
  let single := if allowsSingle m first then some (m.skip t) else none
  match m.skip t with
  | '-' :: rest =>
    if m.peek? rest = some ']' || m.peek? rest = some '-' then single
    else
      let (last, rest) ← readMemberAtom m (m.skip rest)
      if allowsRange m first last then some rest else none
  | _ => single

/-- Reads on in a class, up to the bracket that closes the outermost one: its
depth, and the rest. -/
def readClassFrom (m : Mode) : Nat → OpenClass → List OpenClass → Text → Option (Nat × Text)
  | 0, _, _, _ => none
  | fuel + 1, o, outer, t =>
    match m.skip t with
    | [] => none
    | '[' :: t =>
      match readNamed? t with
      | some (isNegated, t) =>
        if m.allowsNamed isNegated then readClassFrom m fuel (o.add 0) outer t else none
      | none => do
        let t ← openClass m t
        readClassFrom m fuel {} (o :: outer) t
    | ']' :: t =>
      if o.atStart && o.members.isEmpty then
        if m.allowsMember ']' then readClassFrom m fuel (o.add 0) outer t else none
      else
        match outer with
        | [] => some (o.depth + 1, t)
        | parent :: outer => readClassFrom m fuel (parent.add (o.depth + 1)) outer t
    | '-' :: rest =>
      if o.atStart then
        if m.allowsMember '-' then readClassFrom m fuel o.addHyphen outer rest else none
      else if rest.head? = some '-' then readClassFrom m fuel o.operate outer rest.tail
      else do
        let t ← readMember m ('-' :: rest)
        readClassFrom m fuel (o.add 0) outer t
    | '&' :: '&' :: t | '~' :: '~' :: t => readClassFrom m fuel o.operate outer t
    | t => do
      let t ← readMember m t
      readClassFrom m fuel (o.add 0) outer t

/-- The class behind an opening bracket.  Each step takes a character. -/
def readClass (m : Mode) (t : Text) : Option (Nat × Text) := do
  let t ← openClass m t
  readClassFrom m (t.length + 1) {} [] t

end Pattern
end SimReport
