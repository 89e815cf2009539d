/-
Where a marker occurs in the bytes of a text.

A text is searched character by character, and its offsets count bytes.  The two
agree: the bytes of a marker stand only where the marker does (`occursAt_iff`),
so the first occurrence is at the least offset at which they stand, and no
character is cut there (`isLeast_occursAt`).

The empty marker stands at every offset, those inside a character included, but
its first occurrence is at zero for characters and bytes alike.
-/
import Mathlib.Order.Bounds.Defs
import SimReport.Proofs.Text.Search
import SimReport.Proofs.Text.Utf8

namespace SimReport
namespace Text

/-- The bytes of `marker` stand in those of `t` at this offset. -/
def OccursAt (t marker : Text) (offset : Nat) : Prop := marker.toBytes <+: t.toBytes.drop offset

instance (t marker : Text) (offset : Nat) : Decidable (t.OccursAt marker offset) :=
  inferInstanceAs (Decidable (marker.toBytes <+: t.toBytes.drop offset))

theorem byteLength_pos {t : Text} (h : t ≠ []) : 0 < t.byteLength := by
  obtain ⟨c, t, rfl⟩ := List.exists_cons_of_ne_nil h
  have hc : 0 < c.utf8Size := c.utf8Size_pos
  show 0 < c.utf8Size + byteLength t
  omega

/-- Of two starts of a text the longer one has more bytes. -/
theorem byteLength_le_iff_length_le {s before t : Text} (hs : s <+: t) (hbefore : before <+: t) :
    before.byteLength ≤ s.byteLength ↔ before.length ≤ s.length := by
  constructor
  · intro h
    rcases List.prefix_or_prefix_of_prefix hbefore hs with hle | ⟨rest, rfl⟩
    · exact hle.length_le
    · have hrest : rest = [] := by
        by_contra hne
        have hpos := byteLength_pos hne
        rw [byteLength_append] at h
        omega
      rw [hrest, List.append_nil]
  · intro h
    obtain ⟨rest, rfl⟩ := List.prefix_of_prefix_length_le hbefore hs h
    rw [byteLength_append]
    exact Nat.le_add_right _ _

theorem occursAt_iff {t marker : Text} (hm : marker ≠ []) {offset : Nat} :
    t.OccursAt marker offset ↔ ∃ s u, t = s ++ (marker ++ u) ∧ s.byteLength = offset := by
  constructor
  · rintro ⟨post, hpost⟩
    have hsplit : t.toBytes = t.toBytes.take offset ++ (marker.toBytes ++ post) := by
      rw [hpost, List.take_append_drop]
    obtain ⟨s, u, rfl, hs⟩ := Utf8.exists_eq_append_of_toBytes hm hsplit
    refine ⟨s, u, rfl, ?_⟩
    have hpos := byteLength_pos hm
    have hlength := congrArg List.length hpost
    rw [byteLength_eq_length_toBytes] at hpos
    rw [List.length_append, List.length_drop] at hlength
    rw [byteLength_eq_length_toBytes, hs, List.length_take]
    omega
  · rintro ⟨s, u, rfl, rfl⟩
    rw [OccursAt, byteLength_eq_length_toBytes, toBytes_append, List.drop_left, toBytes_append]
    exact List.prefix_append _ _

theorem exists_occursAt_iff {t marker : Text} (hm : marker ≠ []) :
    (∃ n, t.OccursAt marker n) ↔ marker <:+: t := by
  constructor
  · rintro ⟨n, hn⟩
    obtain ⟨s, u, rfl, -⟩ := (occursAt_iff hm).mp hn
    exact ⟨s, u, List.append_assoc s marker u⟩
  · rintro ⟨s, u, rfl⟩
    exact ⟨byteLength s, (occursAt_iff hm).mpr ⟨s, u, List.append_assoc s marker u, rfl⟩⟩

theorem noneWithin_iff {marker before after : Text} (hm : marker ≠ []) :
    NoneWithin marker before (before ++ after) ↔
      ∀ offset, (before ++ after).OccursAt marker offset → before.byteLength ≤ offset := by
  constructor
  · intro h offset hoccurs
    obtain ⟨s, u, hsplit, rfl⟩ := (occursAt_iff hm).mp hoccurs
    have hs : s <+: before ++ after := hsplit ▸ List.prefix_append s _
    exact (byteLength_le_iff_length_le hs (List.prefix_append before after)).mpr (h s u hsplit)
  · intro h s u hsplit
    have hs : s <+: before ++ after := hsplit ▸ List.prefix_append s _
    have hoccurs : (before ++ after).OccursAt marker s.byteLength :=
      (occursAt_iff hm).mpr ⟨s, u, hsplit, rfl⟩
    exact (byteLength_le_iff_length_le hs (List.prefix_append before after)).mp (h _ hoccurs)

/-- The bytes of a marker stand nowhere before its first occurrence. -/
theorem isLeast_occursAt {marker before found : Text} (hstart : marker <+: found)
    (h : NoneWithin marker before (before ++ found)) :
    IsLeast {n | (before ++ found).OccursAt marker n} before.byteLength := by
  obtain ⟨rest, rfl⟩ := hstart
  by_cases hm : marker = []
  · subst hm
    have hlength : before.length ≤ 0 := h [] (before ++ rest) rfl
    have hbefore : before = [] := List.eq_nil_of_length_eq_zero (Nat.le_zero.mp hlength)
    subst hbefore
    exact ⟨List.nil_prefix, fun n _ => Nat.zero_le n⟩
  · exact ⟨(occursAt_iff hm).mpr ⟨before, rest, rfl, rfl⟩, (noneWithin_iff hm).mp h⟩

end Text
end SimReport
