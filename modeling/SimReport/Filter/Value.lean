/-
The values that a directive may ask a field to have: numbers and patterns.
Patterns are never run, since no directive on a value covers an event; but a
fault in one is a fault of the directive.
-/
import SimReport.Pattern.Reader

namespace SimReport
namespace Filter

/-- One or more digits behind the sign of an exponent. -/
def isExponent : Text → Bool
  | '-' :: t | '+' :: t | t => !t.isEmpty && t.all Char.isDigit

/-- A decimal number, or a word for one that is none. -/
def isNumber (t : Text) : Bool :=
  let whole := t.takeWhile Char.isDigit
  let rest := t.dropWhile Char.isDigit
  let fraction := if rest.head? = some '.' then rest.tail.takeWhile Char.isDigit else []
  let rest := if rest.head? = some '.' then rest.tail.dropWhile Char.isDigit else rest
  let isWord := ["inf".toList, "infinity".toList, "nan".toList].contains (t.map Char.toLower)
  isWord || (!(whole ++ fraction).isEmpty &&
    (rest.isEmpty || ((rest.head?.any fun c => c == 'e' || c == 'E') && isExponent rest.tail)))

/-- A plus sign may begin a number, but not a pattern. -/
def isFieldValue : Text → Bool
  | '+' :: t => isNumber t
  | t => t.isPattern

end Filter
end SimReport
