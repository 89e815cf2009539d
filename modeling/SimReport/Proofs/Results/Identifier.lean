/-
Where the name of a log ends and its identifier stops.

The identifier is the name without its last four characters, however many bytes
those have.  Cutting a name at bytes gives the same: the fourth character from
the end is looked for, and the name is cut where that character begins
(`takeBytes?_idEnd`).  A name of fewer than four characters has no such place and
is cut at its start, so nothing is left of it.
-/
import SimReport.Results
import SimReport.Text.Slice

namespace SimReport

namespace Text

/-- The offsets in bytes at which the characters of a text begin, the text itself beginning at
`start`. -/
def offsetsFrom (start : Nat) : Text → List Nat
  | [] => []
  | c :: t => start :: offsetsFrom (start + c.utf8Size) t

def offsets (t : Text) : List Nat := offsetsFrom 0 t

@[simp] theorem length_offsetsFrom (start : Nat) (t : Text) :
    (offsetsFrom start t).length = t.length := by
  induction t generalizing start with
  | nil => rfl
  | cons c t ih => rw [offsetsFrom, List.length_cons, ih, List.length_cons]

theorem offsetsFrom_append (start : Nat) (s t : Text) :
    offsetsFrom start (s ++ t) = offsetsFrom start s ++ offsetsFrom (start + s.byteLength) t := by
  induction s generalizing start with
  | nil => rfl
  | cons c s ih =>
    have hsize : start + byteLength (c :: s) = start + c.utf8Size + byteLength s := by
      show start + (c.utf8Size + byteLength s) = _
      omega
    rw [List.cons_append, offsetsFrom, offsetsFrom, ih, hsize, List.cons_append]

end Text

/-- Where the fourth character from the end of a name begins, or zero if there is none. -/
def idEnd (fileName : Text) : Nat := (fileName.offsets.reverse[3]?).getD 0

theorem benchmarkId_append_drop (fileName : Text) :
    benchmarkId fileName ++ fileName.drop (fileName.length - 4) = fileName :=
  List.take_append_drop _ _

theorem benchmarkId_of_short {fileName : Text} (h : fileName.length < 4) :
    benchmarkId fileName = [] := by
  rw [benchmarkId, Nat.sub_eq_zero_of_le (by omega), List.take_zero]

theorem exists_benchmarkId_append {fileName : Text} (h : 4 ≤ fileName.length) :
    ∃ tail : Text, tail.length = 4 ∧ benchmarkId fileName ++ tail = fileName := by
  refine ⟨_, ?_, benchmarkId_append_drop fileName⟩
  rw [List.length_drop]
  omega

theorem idEnd_append (id : Text) {tail : Text} (h : tail.length = 4) :
    idEnd (id ++ tail) = id.byteLength := by
  obtain ⟨c, rest, rfl⟩ := List.exists_cons_of_length_eq_add_one h
  have hrest : rest.length = 3 := Nat.succ.inj h
  have hoffsets : (id ++ c :: rest).offsets = id.offsets ++
      id.byteLength :: Text.offsetsFrom (id.byteLength + c.utf8Size) rest := by
    rw [Text.offsets, Text.offsetsFrom_append, Nat.zero_add]
    rfl
  -- Three offsets stand behind that of `c`, those of the characters in `rest`.
  have hbehind : (Text.offsetsFrom (id.byteLength + c.utf8Size) rest).reverse.length = 3 := by
    rw [List.length_reverse, Text.length_offsetsFrom, hrest]
  rw [idEnd, hoffsets, List.reverse_append, List.reverse_cons, List.append_assoc,
    List.getElem?_append_right (Nat.le_of_eq hbehind), hbehind]
  rfl

theorem idEnd_of_short {fileName : Text} (h : fileName.length < 4) : idEnd fileName = 0 := by
  have hlength : fileName.offsets.reverse.length ≤ 3 := by
    rw [List.length_reverse, Text.offsets, Text.length_offsetsFrom]
    omega
  rw [idEnd, List.getElem?_eq_none hlength]
  rfl

/-- A name can be cut at the bytes where its identifier ends. -/
theorem takeBytes?_idEnd (fileName : Text) :
    fileName.takeBytes? (idEnd fileName) = some (benchmarkId fileName) := by
  by_cases h : fileName.length < 4
  · rw [idEnd_of_short h, benchmarkId_of_short h]
    cases fileName <;> rfl
  · obtain ⟨tail, htail, hname⟩ := exists_benchmarkId_append (Nat.not_lt.mp h)
    have hend := idEnd_append (benchmarkId fileName) htail
    have hcut := Text.takeBytes?_append (benchmarkId fileName) tail
    rw [hname] at hend hcut
    rw [hend, hcut]

end SimReport
