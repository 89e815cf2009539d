/-
Text and bytes.  Text is a list of Unicode scalar values, so searching and
cutting it is ordinary recursion and every cut falls between characters; its
size in bytes is a measure on it.
-/
namespace SimReport

abbrev Text := List Char

abbrev Bytes := List UInt8

namespace Text

/-- The UTF-8 form of a text. -/
def toBytes (t : Text) : Bytes := t.flatMap String.utf8EncodeChar

/-- The number of bytes in the UTF-8 form. -/
def byteLength (t : Text) : Nat := t.foldr (fun c n => c.utf8Size + n) 0

@[simp] theorem toBytes_nil : toBytes [] = [] := rfl

@[simp] theorem toBytes_append (s t : Text) : toBytes (s ++ t) = toBytes s ++ toBytes t :=
  List.flatMap_append

@[simp] theorem byteLength_nil : byteLength [] = 0 := rfl

@[simp] theorem byteLength_append (s t : Text) :
    byteLength (s ++ t) = byteLength s + byteLength t := by
  induction s with
  | nil => simp [byteLength]
  | cons c s ih =>
    simp only [byteLength, List.cons_append, List.foldr_cons] at ih ⊢
    omega

theorem byteLength_eq_length_toBytes (t : Text) : byteLength t = (toBytes t).length := by
  induction t with
  | nil => rfl
  | cons c t ih =>
    have h : (String.utf8EncodeChar c).length = c.utf8Size := String.length_utf8EncodeChar c
    simp only [byteLength, toBytes, List.foldr_cons, List.flatMap_cons, List.length_append] at ih ⊢
    omega

/-- Texts set one after another with `separator` between neighbours. -/
def joinWith (separator : Text) (ts : List Text) : Text := (ts.intersperse separator).flatten

end Text
end SimReport
