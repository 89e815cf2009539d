/-
Which diagnostics are told.  A filter is a list of directives, each a level for
the events that it covers; of those that cover an event the most specific
decides, and an event that no directive covers is not told.
-/
import SimReport.Event

namespace SimReport

/-- A field that an event has to have, perhaps with a certain value. -/
structure FieldMatch where
  name : Text
  value : Option Text := none
  deriving DecidableEq

/-- Events up to a rank are told, if they have a target that begins with a text,
happen within a span of a name, and have a field, as far as these are given. -/
structure Directive where
  target : Option Text := none
  span : Option Text := none
  field : Option FieldMatch := none
  rank : Nat
  deriving DecidableEq

namespace Event

/-- The message is a field of every event. -/
def fieldNames (e : Event) : List Text := "message".toList :: e.fields.map (·.1)

end Event

namespace FieldMatch

/-- Values are compared in spans only, so no event has a field with a value. -/
def holds (f : FieldMatch) (e : Event) : Bool := f.value.isNone && e.fieldNames.contains f.name

end FieldMatch

namespace Directive

/-- The program opens no spans, so no event happens within one. -/
def covers (d : Directive) (e : Event) : Bool :=
  d.target.all (·.isPrefixOf e.target) && d.span.isNone && d.field.all (·.holds e)

/-- Longer targets weigh more, and any target more than none. -/
def weight (d : Directive) : Nat :=
  match d.target with
  | none => 0
  | some start => start.length + 1

/-- Between directives of one weight a field counts, then the order of names. -/
def fieldYields (d other : Directive) : Bool :=
  match d.field, other.field with
  | none, _ => true
  | some _, none => false
  | some f, some g => List.le f.name g.name

/-- The other directive is at least as specific as this one. -/
def yields (d other : Directive) : Bool :=
  d.weight < other.weight || (d.weight = other.weight && d.fieldYields other)

end Directive

abbrev Filter := List Directive

namespace Filter

def upTo (level : Level) : Filter := [{ rank := level.rank }]

/-- The directive that decides about an event.  Of two that are as specific the
later one holds. -/
def deciding? (filter : Filter) (e : Event) : Option Directive :=
  filter.foldl (fun best d =>
    if d.covers e && best.all (·.yields d) then some d else best) none

def tells (filter : Filter) (e : Event) : Bool :=
  (filter.deciding? e).any fun d => e.level.rank ≤ d.rank

end Filter
end SimReport
