/-
Reading a filter.  Directives stand between commas, and each is a level, or a
target, a scope in brackets, or both, with or without a level.  One fault makes
the whole filter unreadable.
-/
import SimReport.Filter
import SimReport.Filter.Value
import SimReport.Text.Slice

namespace SimReport
namespace Filter

def levelNames : List (Text × Nat) :=
  [("off".toList, 0), ("error".toList, 1), ("warn".toList, 2), ("info".toList, 3),
    ("debug".toList, 4), ("trace".toList, 5)]

/-- A level by its name in either case, or by its rank. -/
def rank? (t : Text) : Option Nat :=
  match Text.natural? .decimal (Text.dropPlus t) with
  | some n => if n ≤ 5 then some n else none
  | none => levelNames.lookup (t.map Char.toLower)

/-- Everything is told where no level is written. -/
def fullRank : Nat := Level.trace.rank

/-- The level behind an equals sign may be left out. -/
def levelRank? (t : Text) : Option Nat := if t.isEmpty then some fullRank else rank? t

/-- One word is a level for all events, or else a target. -/
def ofWord (t : Text) : Directive :=
  match rank? t with
  | some rank => { rank }
  | none => { target := some t, rank := fullRank }

/-- A stretch of a text, by the bytes that are left where it begins and where it
ends. -/
structure Stretch where
  start : Nat
  stop : Nat
  deriving DecidableEq

namespace Stretch

/-- From where one text is left to where another is. -/
def between (left behind : Text) : Stretch := ⟨Text.byteLength left, Text.byteLength behind⟩

def isEmpty (s : Stretch) : Bool := s.start = s.stop

end Stretch

/-- Where the parts of a directive stand.  A level runs to the end. -/
structure Parts where
  target : Option Stretch := none
  span : Option Stretch := none
  field : Option Stretch := none
  level : Option Nat := none
  deriving DecidableEq

/-- The directive is one word, a level or a target. -/
def Parts.isWord (p : Parts) : Bool := p.span.isNone && p.field.isNone && p.level.isNone

/-- The name of a field, and the value that it should have. -/
def readField? (t : Text) : Option FieldMatch :=
  let name := t.takeWhile (· != '=')
  match t, t.dropWhile (· != '=') with
  | [], _ => none
  | _, [] => some { name }
  | _, _ :: value =>
    let value := value.takeWhile (· != '=')
    if isFieldValue value then some { name, value := some value } else none

/-- What may follow a scope is a level. -/
def readLevel? (p : Parts) : Text → Option Parts
  | [] => some p
  | '=' :: level => some { p with level := some (Text.byteLength level) }
  | _ => none

/-- The scope behind its opening bracket: a span, a field in braces, or both. -/
def readScope? (p : Parts) (t : Text) : Option Parts :=
  let behind := t.dropWhile fun c => c != ']' && c != '{'
  let span := Stretch.between t behind
  match behind with
  | ']' :: rest => readLevel? { p with span := some span } rest
  | '{' :: inner =>
    let behind := inner.dropWhile (· != '}')
    let p := { p with
      span := if span.isEmpty then none else some span
      field := some (.between inner behind) }
    match behind with
    | '}' :: ']' :: rest => readLevel? p rest
    | _ => none
  | _ => none

/-- A target begins with a letter, a digit or one of three signs. -/
def startsTarget (c : Char) : Bool :=
  c == '-' || c == ':' || c == '_' || Text.isAlphanumeric c

/-- The parts of a directive that has no blanks around it. -/
def readParts? (t : Text) : Option Parts :=
  match t with
  | [] => none
  | '[' :: rest => readScope? {} rest
  | c :: _ =>
    if startsTarget c then
      let behind := t.dropWhile fun c => c != '=' && c != '['
      let p : Parts := { target := some (.between t behind) }
      match behind with
      | '[' :: rest => readScope? p rest
      | _ => readLevel? p behind
    else none

/-- Blanks around a directive are left out to find its parts, but the parts are
cut from the text with its blanks: those in front move every part, and those
behind belong to a level or to a word. -/
def readDirective? (t : Text) : Option Directive := do
  let body := t.trim
  let p ← readParts? body
  let cut (s : Stretch) : Option Text :=
    t.slice? (body.byteLength - s.start) (body.byteLength - s.stop)
  if p.isWord then return ofWord t
  let target ← p.target.mapM cut
  let span ← p.span.mapM cut
  let field ← p.field.mapM fun s => (cut s).bind readField?
  let rank ← match p.level with
    | none => some fullRank
    | some level => (t.dropBytes? (body.byteLength - level)).bind levelRank?
  return { target, span, field, rank }

/-- The parts of a text between commas. -/
def splitCommas : Text → List Text
  | [] => [[]]
  | c :: rest =>
    match splitCommas rest with
    | [] => [[c]]
    | part :: parts => if c = ',' then [] :: part :: parts else (c :: part) :: parts

/-- Without any directive only errors are told. -/
def read? (t : Text) : Option Filter :=
  match (splitCommas t).filter (· ≠ []) with
  | [] => some (upTo .error)
  | parts => parts.mapM readDirective?

end Filter
end SimReport
