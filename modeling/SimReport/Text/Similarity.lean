/-
How much alike two texts are, from zero to one.  Each character of the first is
paired with the first equal character of the second that is near its place and
still free.  Three shares are averaged: the paired characters of either text, and
the pairs that keep their order.
-/
import SimReport.Binary64.Arithmetic

namespace SimReport
namespace Text

/-- How far apart the places of paired characters may be. -/
def reach (a b : Text) : Nat := max a.length b.length / 2 - 1

/-- The place in `b` that a character pairs with which stands at `place`. -/
def partner? (b : Text) (reach : Nat) (taken : List Nat) (c : Char) (place : Nat) : Option Nat :=
  (List.range b.length).find? fun j =>
    place ≤ j + reach && j ≤ place + reach && b[j]? == some c && !taken.contains j

/-- The paired places of `b`, in the order of the characters of `a`. -/
def pairedPlaces (a b : Text) : List Nat :=
  a.zipIdx.foldl (fun taken (c, place) => taken ++ (partner? b (reach a b) taken c place).toList) []

/-- Half the pairs that show another character once the places are sorted. -/
def transpositions (b : Text) (places : List Nat) : Nat :=
  let sorted := (List.range b.length).filter places.contains
  (places.zip sorted).countP (fun (i, j) => b[i]? != b[j]?) / 2

def similarity (a b : Text) : Binary64 :=
  let places := pairedPlaces a b
  let pairs := places.length
  let share := Binary64.ofQuotient pairs
  if a.isEmpty && b.isEmpty then .ofQuotient 1 1
  else if pairs = 0 then .zero
  else
    let ordered := Binary64.ofQuotient (pairs - transpositions b places) pairs
    (((share a.length).plus (share b.length)).plus ordered).part 3

end Text
end SimReport
