/-
The value between a marker and its terminator.

A text with the marker is cut in four: what stands before the first occurrence,
the marker, the value, and the rest.  The parts are determined by the text, since
the first occurrence is, and since the value has to stop at the first terminator
behind it and may not stop before.  The search gives the value of this cut
(`between?_cut`).

A marker may run over into its own next occurrence, and it may be empty: then it
is found at the start, with nothing before it.

The same value is cut out at offsets in bytes (`cutBetween?`).  The bytes of a
marker stand at their least offset where the marker first occurs, so every cut
falls between two characters.
-/
import SimReport.Proofs.Text.Occurrence
import SimReport.Text.Slice

namespace SimReport
namespace Text

/-- The text in four parts, `marker` being the second.  None of its occurrences starts in the
first part, and the value ends at the terminator or at the end of the text. -/
structure Cut (t marker : Text) (terminator : Char) (before value after : Text) : Prop where
  parts : t = before ++ (marker ++ (value ++ after))
  first : NoneWithin marker before t
  inside : terminator ∉ value
  stop : after = [] ∨ after.head? = some terminator

instance (t marker : Text) (terminator : Char) (before value after : Text) :
    Decidable (Cut t marker terminator before value after) :=
  decidable_of_iff (t = before ++ (marker ++ (value ++ after)) ∧ NoneWithin marker before t ∧
      terminator ∉ value ∧ (after = [] ∨ after.head? = some terminator))
    ⟨fun ⟨parts, first, inside, stop⟩ => ⟨parts, first, inside, stop⟩,
      fun h => ⟨h.parts, h.first, h.inside, h.stop⟩⟩

variable {t marker value : Text} {terminator : Char}

theorem between?_eq_some_iff_cut :
    t.between? marker terminator = some value ↔
      ∃ before after, Cut t marker terminator before value after := by
  rw [between?_eq_some_iff]
  constructor
  · rintro ⟨before, after, hparts, hfirst, hinside, hstop⟩
    exact ⟨before, after, hparts, hfirst, hinside, hstop⟩
  · rintro ⟨before, after, h⟩
    exact ⟨before, after, h.parts, h.first, h.inside, h.stop⟩

theorem between?_eq_none_iff : t.between? marker terminator = none ↔ ¬ marker <:+: t := by
  rw [between?, Option.map_eq_none_iff, seek?_eq_none_iff]

/-- A text has one cut: two first occurrences start at the same place. -/
theorem Cut.unique {before after before' value' after' : Text}
    (h : Cut t marker terminator before value after)
    (h' : Cut t marker terminator before' value' after') :
    before = before' ∧ value = value' ∧ after = after' := by
  have hle := h.first before' _ h'.parts
  have hge := h'.first before _ h.parts
  obtain ⟨rfl, hrest⟩ := List.append_inj (h.parts.symm.trans h'.parts) (by omega)
  have hvalue : value = value' := by
    have hfound := between?_eq_some_iff_cut.mpr ⟨_, _, h⟩
    rw [between?_eq_some_iff_cut.mpr ⟨_, _, h'⟩] at hfound
    exact (Option.some.inj hfound).symm
  subst hvalue
  exact ⟨rfl, rfl, List.append_cancel_left (List.append_cancel_left hrest)⟩

/-! ## Offsets in bytes -/

/-- The least offset at which the bytes of `marker` stand in those of `t`. -/
def offset? (t marker : Text) : Option Nat :=
  (List.range (t.byteLength + 1)).find? fun offset => t.OccursAt marker offset

/-- The value as it is cut out at offsets in bytes.  There is none if the marker is missing, and
none inside if a cut would fall within a character. -/
def cutBetween? (t marker : Text) (terminator : Char) : Option (Option Text) :=
  (t.offset? marker).map fun offset =>
    (t.dropBytes? (offset + marker.byteLength)).bind fun rest =>
      rest.takeBytes? ((rest.offset? [terminator]).getD rest.byteLength)

theorem offset?_of_isLeast {offset : Nat} (h : IsLeast {n | t.OccursAt marker n} offset)
    (hle : offset ≤ t.byteLength) : t.offset? marker = some offset := by
  rw [offset?, List.find?_range_eq_some]
  refine ⟨decide_eq_true h.1, List.mem_range.mpr (by omega), fun n hn => ?_⟩
  have hnot : ¬ t.OccursAt marker n := fun hoccurs => absurd (h.2 hoccurs) (by omega)
  simp [hnot]

theorem offset?_of_first {before found : Text} (hstart : marker <+: found)
    (h : NoneWithin marker before (before ++ found)) :
    (before ++ found).offset? marker = some before.byteLength := by
  refine offset?_of_isLeast (isLeast_occursAt hstart h) ?_
  rw [byteLength_append]
  omega

theorem offset?_eq_none (h : ¬ marker <:+: t) : t.offset? marker = none := by
  have hm : marker ≠ [] := fun hnil => h (hnil ▸ List.nil_infix)
  rw [offset?, List.find?_eq_none]
  intro offset _ hoccurs
  exact h ((exists_occursAt_iff hm).mp ⟨offset, of_decide_eq_true hoccurs⟩)

theorem noneWithin_of_not_mem (h : terminator ∉ value) (rest : Text) :
    NoneWithin [terminator] value (value ++ rest) := by
  intro s u hsplit
  by_contra hlt
  have hs : s.length < value.length := not_le.mp hlt
  have hchar := congrArg (·[s.length]?) hsplit
  simp only [List.getElem?_append_left hs, List.getElem?_append_right (le_refl s.length),
    Nat.sub_self, List.singleton_append, List.getElem?_cons_zero] at hchar
  exact h (List.mem_of_getElem? hchar)

/-- The value ends where the bytes of the terminator first stand behind the marker. -/
theorem Cut.offset?_terminator {before after : Text}
    (h : Cut t marker terminator before value after) :
    ((value ++ after).offset? [terminator]).getD (value ++ after).byteLength =
      value.byteLength := by
  rcases h.stop with rfl | hstop
  · have hnone : ¬ [terminator] <:+: value ++ [] := by
      rw [List.append_nil, List.singleton_infix_iff]
      exact h.inside
    rw [offset?_eq_none hnone, Option.getD_none, List.append_nil]
  · obtain ⟨rest, rfl⟩ := List.head?_eq_some_iff.mp hstop
    have hstart : [terminator] <+: terminator :: rest := List.prefix_append [terminator] rest
    rw [offset?_of_first hstart (noneWithin_of_not_mem h.inside _), Option.getD_some]

theorem Cut.cutBetween?_eq {before after : Text} (h : Cut t marker terminator before value after) :
    t.cutBetween? marker terminator = some (some value) := by
  have hstop := h.offset?_terminator
  obtain ⟨rfl, hfirst, -, -⟩ := h
  have hdrop := dropBytes?_append (before ++ marker) (value ++ after)
  rw [byteLength_append, List.append_assoc] at hdrop
  rw [cutBetween?, offset?_of_first (List.prefix_append marker _) hfirst, Option.map_some,
    hdrop, Option.bind_some, hstop, takeBytes?_append]

theorem cutBetween?_eq (t marker : Text) (terminator : Char) :
    t.cutBetween? marker terminator = (t.between? marker terminator).map some := by
  cases hvalue : t.between? marker terminator with
  | none =>
    rw [cutBetween?, offset?_eq_none (between?_eq_none_iff.mp hvalue)]
    rfl
  | some value =>
    obtain ⟨before, after, h⟩ := between?_eq_some_iff_cut.mp hvalue
    exact h.cutBetween?_eq

/-- The value found is that of the one cut of the text, there is none exactly if the marker does
not occur, and cutting at offsets in bytes gives the same and never fails. -/
theorem between?_cut (t marker : Text) (terminator : Char) :
    (∀ value, t.between? marker terminator = some value ↔
      ∃ before after, Cut t marker terminator before value after) ∧
    (∀ before value after before' value' after', Cut t marker terminator before value after →
      Cut t marker terminator before' value' after' →
        before = before' ∧ value = value' ∧ after = after') ∧
    (t.between? marker terminator = none ↔ ¬ marker <:+: t) ∧
    t.cutBetween? marker terminator = (t.between? marker terminator).map some :=
  ⟨fun _ => between?_eq_some_iff_cut, fun _ _ _ _ _ _ h h' => h.unique h', between?_eq_none_iff,
    cutBetween?_eq t marker terminator⟩

/-- A marker that runs over into its next occurrence, with characters of several bytes around it
and a terminator in front of it, and the empty marker. -/
theorem between?_cut_overlapping :
    let t : Text := "(éaaaé(".toList
    let marker : Text := "aa".toList
    Cut t marker '(' "(é".toList "aé".toList "(".toList ∧
      t.between? marker '(' = some "aé".toList ∧
      t.cutBetween? marker '(' = some (some "aé".toList) ∧
      (∀ before value after, Cut t marker '(' before value after → before = "(é".toList) ∧
      t.cutBetween? [] 'a' = some (some "(é".toList) := by
  intro t marker
  obtain ⟨-, hunique, -, hbytes⟩ := between?_cut t marker '('
  obtain ⟨-, -, -, hempty⟩ := between?_cut t [] 'a'
  have hcut : Cut t marker '(' "(é".toList "aé".toList "(".toList := by decide
  have hvalue : t.between? marker '(' = some "aé".toList := by decide
  have hvalue' : t.between? [] 'a' = some "(é".toList := by decide
  rw [hvalue] at hbytes
  rw [hvalue'] at hempty
  exact ⟨hcut, hvalue, hbytes, fun _ _ _ h => (hunique _ _ _ _ _ _ h hcut).1, hempty⟩

end Text
end SimReport
