/-
Where a marker is found in a text that is put together from parts.

A marker found in the first part is found there whatever follows it.  Otherwise
the search goes on behind the first part, unless an occurrence begins in that
part and ends behind it.  An occurrence that does so has an end that begins the
next part, and `Clear` says that the marker has no such end.  The next part is
clear of a marker if it begins with a character that the marker does not have,
or with a text into which no end of the marker runs on, which is `Apart`.

Conversely, what is found is a cut of the text: the part in front of the first
occurrence has no occurrence that begins in it, which is `NoneWithin`
(`seek?_eq_some_iff`), and a value found behind the marker is cut off by its
terminator or by the end (`between?_eq_some_iff`).
-/
import Mathlib.Data.List.Infix
import Mathlib.Data.List.TakeWhile
import SimReport.Text.Search

namespace SimReport
namespace Text

/-- The ends of a text that are shorter than the text, the empty one included. -/
def ends (t : Text) : List Text := t.tail.tails

/-- No end of `marker` begins `t`, so no occurrence of it runs on into `t`. -/
def Clear (marker t : Text) : Prop := ∀ e ∈ ends marker, e ≠ [] → ¬ e <+: t

/-- No end of `marker` agrees with `t` as far as both go. -/
def Apart (marker t : Text) : Prop := ∀ e ∈ ends marker, e ≠ [] → ¬ e <+: t ∧ ¬ t <+: e

instance (marker t : Text) : Decidable (Apart marker t) :=
  inferInstanceAs (Decidable (∀ e ∈ ends marker, e ≠ [] → ¬ e <+: t ∧ ¬ t <+: e))

theorem mem_ends_append {s e : Text} (h : s ≠ []) : e ∈ ends (s ++ e) := by
  cases s with
  | nil => exact absurd rfl h
  | cons c s =>
    rw [ends, List.cons_append, List.tail_cons, List.mem_tails]
    exact List.suffix_append s e

theorem eq_append_of_mem_ends {t e : Text} (h : e ∈ ends t) :
    e = [] ∨ ∃ s, s ≠ [] ∧ t = s ++ e := by
  cases t with
  | nil => exact Or.inl (by simpa [ends] using h)
  | cons c t =>
    rw [ends, List.tail_cons, List.mem_tails] at h
    obtain ⟨s, rfl⟩ := h
    exact Or.inr ⟨c :: s, List.cons_ne_nil c s, rfl⟩

/-! ## Parts without an occurrence across their joint -/

theorem clear_nil (marker : Text) : Clear marker [] :=
  fun _ _ he h => he (List.prefix_nil.mp h)

theorem clear_cons {marker : Text} {c : Char} (h : c ∉ marker) (t : Text) :
    Clear marker (c :: t) := by
  intro e he hne hpre
  rcases eq_append_of_mem_ends he with rfl | ⟨s, -, rfl⟩
  · exact hne rfl
  · obtain ⟨d, e, rfl⟩ := List.exists_cons_of_ne_nil hne
    obtain rfl := (List.cons_prefix_cons.mp hpre).1
    exact h (List.mem_append_right s List.mem_cons_self)

theorem Apart.clear {marker t : Text} (h : Apart marker t) (u : Text) : Clear marker (t ++ u) := by
  intro e he hne hpre
  rcases List.prefix_or_prefix_of_prefix hpre (List.prefix_append t u) with hle | hle
  · exact (h e he hne).1 hle
  · exact (h e he hne).2 hle

/-- A marker that begins in `s` and is clear of what follows lies in `s`. -/
theorem Clear.start_append {marker t : Text} (h : Clear marker t) {s : Text} (hs : s ≠ [])
    (hm : marker <+: s ++ t) : marker <+: s := by
  rcases List.prefix_or_prefix_of_prefix hm (List.prefix_append s t) with hle | ⟨e, rfl⟩
  · exact hle
  · by_cases he : e = []
    · rw [he, List.append_nil]
    · exact absurd ((List.prefix_append_right_inj s).mp hm) (h e (mem_ends_append hs) he)

/-! ## The search -/

theorem seek?_append_of_eq_some {t marker found : Text} (h : t.seek? marker = some found)
    (u : Text) : (t ++ u).seek? marker = some (found ++ u) := by
  induction t with
  | nil =>
    rw [seek?] at h
    split at h
    · next hp =>
      cases h
      rw [List.isPrefixOf_iff_prefix, List.prefix_nil] at hp
      subst hp
      exact seek?_of_start List.nil_prefix
    · cases h
  | cons c t ih =>
    by_cases hp : marker <+: c :: t
    · rw [seek?_of_start hp] at h
      cases h
      exact seek?_of_start (hp.trans (List.prefix_append _ u))
    · rw [seek?_cons_of_not_start hp] at h
      by_cases hpu : marker <+: c :: (t ++ u)
      · -- The marker would run over the end of `c :: t`, so it cannot be found inside `t`.
        have hlen : marker.length ≤ t.length :=
          ((seek?_sound h).1.length_le).trans (seek?_sound h).2.length_le
        have : marker <+: c :: t := by
          refine List.prefix_of_prefix_length_le hpu (List.prefix_append (c :: t) u) ?_
          rw [List.length_cons]
          omega
        exact absurd this hp
      · rw [List.cons_append, seek?_cons_of_not_start hpu, ih h]

theorem seek?_append_of_not_start {a marker t : Text}
    (h : ∀ s, s <:+ a → s ≠ [] → ¬ marker <+: s ++ t) : (a ++ t).seek? marker = t.seek? marker := by
  induction a with
  | nil => rfl
  | cons c a ih =>
    have hc : ¬ marker <+: c :: (a ++ t) := h (c :: a) (List.suffix_refl _) (List.cons_ne_nil c a)
    rw [List.cons_append, seek?_cons_of_not_start hc]
    exact ih fun s hs => h s (hs.trans (List.suffix_cons c a))

theorem seek?_append_of_clear {a marker t : Text} (ha : ¬ marker <:+: a) (h : Clear marker t) :
    (a ++ t).seek? marker = t.seek? marker := by
  refine seek?_append_of_not_start fun s hs hne hm => ha ?_
  exact (h.start_append hne hm).isInfix.trans hs.isInfix

theorem seek?_append_of_head {a marker t : Text} (hm : marker ≠ [])
    (h : ∀ c ∈ a, marker.head? ≠ some c) : (a ++ t).seek? marker = t.seek? marker := by
  refine seek?_append_of_not_start fun s hs hne hpre => ?_
  obtain ⟨c, s, rfl⟩ := List.exists_cons_of_ne_nil hne
  obtain ⟨d, marker, rfl⟩ := List.exists_cons_of_ne_nil hm
  have hd : d = c := (List.cons_prefix_cons.mp hpre).1
  exact h c (hs.subset List.mem_cons_self) (by rw [hd, List.head?_cons])

theorem seek?_append_of_apart {other marker t : Text} (hne : ¬ marker <+: other)
    (hne' : ¬ other <+: marker) (h : Apart other marker) :
    (other ++ t).seek? marker = t.seek? marker := by
  refine seek?_append_of_not_start fun s ⟨a, ha⟩ hs hm => ?_
  have hcmp := List.prefix_or_prefix_of_prefix hm (List.prefix_append s t)
  by_cases he : a = []
  · rw [he, List.nil_append] at ha
    subst ha
    exact hcmp.elim hne hne'
  · have hend : s ∈ ends other := ha ▸ mem_ends_append he
    exact hcmp.elim (h s hend hs).2 (h s hend hs).1

theorem seek?_of_occurrence {marker t : Text} (h : marker <+: t) (before : Text) :
    ∃ found, (before ++ t).seek? marker = some found ∧ t <:+ found := by
  induction before with
  | nil => exact ⟨t, seek?_of_start h, List.suffix_refl t⟩
  | cons c before ih =>
    by_cases hc : marker <+: c :: (before ++ t)
    · exact ⟨c :: (before ++ t), seek?_of_start hc, List.suffix_append (c :: before) t⟩
    · obtain ⟨found, hfound, hsuffix⟩ := ih
      exact ⟨found, (seek?_cons_of_not_start hc).trans hfound, hsuffix⟩

/-- No occurrence of `marker` in `t` starts before the end of `before`. -/
def NoneWithin (marker before t : Text) : Prop :=
  ∀ s u, t = s ++ (marker ++ u) → before.length ≤ s.length

theorem noneWithin_iff_drop {marker before t : Text} :
    NoneWithin marker before t ↔ ∀ n < before.length, ¬ marker <+: t.drop n := by
  constructor
  · rintro h n hn ⟨u, hu⟩
    have hlength : before.length ≤ (t.take n).length :=
      h (t.take n) u (by rw [hu, List.take_append_drop])
    have htake := List.length_take_le n t
    omega
  · intro h s u hsplit
    by_contra hlt
    refine h s.length (not_le.mp hlt) ⟨u, ?_⟩
    rw [hsplit, List.drop_left]

instance (marker before t : Text) : Decidable (NoneWithin marker before t) :=
  decidable_of_iff _ noneWithin_iff_drop.symm

theorem NoneWithin.seek?_append {marker before t : Text}
    (h : NoneWithin marker before (before ++ t)) : (before ++ t).seek? marker = t.seek? marker := by
  refine seek?_append_of_not_start fun s ⟨a, ha⟩ hs ⟨u, hu⟩ => hs ?_
  have hlength : before.length ≤ a.length := by
    refine h a u ?_
    rw [hu, ← ha, List.append_assoc]
  rw [← ha, List.length_append] at hlength
  exact List.eq_nil_of_length_eq_zero (by omega)

/-- What is found is what remains of the text from the first occurrence on. -/
theorem seek?_eq_some_iff {marker t found : Text} :
    t.seek? marker = some found ↔
      ∃ before, t = before ++ found ∧ marker <+: found ∧ NoneWithin marker before t := by
  constructor
  · intro h
    obtain ⟨hstart, before, rfl⟩ := seek?_sound h
    refine ⟨before, rfl, hstart, fun s u hu => ?_⟩
    obtain ⟨other, hother, hsuffix⟩ := seek?_of_occurrence (List.prefix_append marker u) s
    rw [← hu, h, Option.some.injEq] at hother
    -- The occurrence behind `s` lies in what is found, which is as long as what follows `before`.
    have hinside : (marker ++ u).length ≤ found.length := hother ▸ hsuffix.length_le
    have hlength := congrArg List.length hu
    rw [List.length_append, List.length_append] at hlength
    omega
  · rintro ⟨before, rfl, hstart, hnone⟩
    rw [hnone.seek?_append, seek?_of_start hstart]

/-! ## The value behind a marker -/

theorem takeWhile_ne_append_of_mem {c : Char} {v : Text} (h : c ∈ v) (u : Text) :
    (v ++ u).takeWhile (· != c) = v.takeWhile (· != c) := by
  induction v with
  | nil => exact absurd h List.not_mem_nil
  | cons d v ih =>
    by_cases hd : d = c
    · simp [hd]
    · have hv : c ∈ v := (List.mem_cons.mp h).resolve_left fun e => hd e.symm
      simp [hd, ih hv]

/-- A value that its terminator closes does not change with what follows. -/
theorem between?_append_of_mem {t marker found : Text} {terminator : Char}
    (h : t.seek? marker = some found) (hc : terminator ∈ found.drop marker.length) (u : Text) :
    (t ++ u).between? marker terminator = t.between? marker terminator := by
  have hlen : marker.length ≤ found.length := (seek?_sound h).1.length_le
  rw [between?, between?, seek?_append_of_eq_some h u, h, Option.map_some, Option.map_some,
    List.drop_append_of_le_length hlen, takeWhile_ne_append_of_mem hc]

/-- The value is what stands between the marker found and the terminator or the end. -/
theorem between?_of_seek? {t marker v u : Text} {terminator : Char}
    (h : t.seek? marker = some (marker ++ (v ++ u))) (hv : terminator ∉ v)
    (hu : u = [] ∨ u.head? = some terminator) : t.between? marker terminator = some v := by
  have hpass : ∀ c ∈ v, (c != terminator) = true := fun c hc =>
    bne_iff_ne.mpr fun e => hv (e ▸ hc)
  rw [between?, h, Option.map_some, List.drop_left, List.takeWhile_append_of_pos hpass]
  rcases hu with rfl | hu
  · rw [List.takeWhile_nil, List.append_nil]
  · obtain ⟨w, rfl⟩ := List.head?_eq_some_iff.mp hu
    simp

/-- The value behind the first occurrence of a marker, as a cut of the text in four: what stands
before that occurrence, the marker, the value, and the rest, which is empty or begins with the
terminator. -/
theorem between?_eq_some_iff {t marker v : Text} {terminator : Char} :
    t.between? marker terminator = some v ↔
      ∃ before after, t = before ++ (marker ++ (v ++ after)) ∧ NoneWithin marker before t ∧
        terminator ∉ v ∧ (after = [] ∨ after.head? = some terminator) := by
  constructor
  · intro h
    rw [between?, Option.map_eq_some_iff] at h
    obtain ⟨found, hfound, rfl⟩ := h
    obtain ⟨before, rfl, ⟨rest, rfl⟩, hnone⟩ := seek?_eq_some_iff.mp hfound
    rw [List.drop_left]
    refine ⟨before, rest.dropWhile (· != terminator), ?_, hnone, fun hmem => ?_, ?_⟩
    · rw [List.takeWhile_append_dropWhile]
    · have hpass := List.mem_takeWhile_imp hmem
      simp at hpass
    · cases hafter : rest.dropWhile (· != terminator) with
      | nil => exact Or.inl rfl
      | cons c after =>
        have hstop := List.head?_dropWhile_not (· != terminator) rest
        rw [hafter] at hstop
        exact Or.inr (by simpa using hstop)
  · rintro ⟨before, after, rfl, hnone, hv, hafter⟩
    refine between?_of_seek? ?_ hv hafter
    exact seek?_eq_some_iff.mpr ⟨before, rfl, List.prefix_append marker _, hnone⟩

end Text
end SimReport
