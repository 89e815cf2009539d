/-
Taking colour out of a text again.

All colour sequences begin with an escape and have none behind it, so no two of
them overlap.  A sequence that runs across the end of a text would need the first
part of it there: a text that ends in none of these characters can be taken apart
at its end (`erase_append`).  So painting a text with such an end, which puts
sequences around it and behind the ends of colour inside it, is undone by taking
the sequences out, whatever sequences or parts of them the text has of its own
(`erase_paint`).
-/
import SimReport.Console

namespace SimReport
namespace Colour

def sequences : List Text := [start .red, start .green, stop]

/-- Takes the colour sequences out, in one pass from the left. -/
def erase : Text → Text
  | '\x1b' :: '[' :: '3' :: '1' :: 'm' :: t => erase t
  | '\x1b' :: '[' :: '3' :: '2' :: 'm' :: t => erase t
  | '\x1b' :: '[' :: '0' :: 'm' :: t => erase t
  | c :: t => c :: erase t
  | [] => []

/-- The characters that a sequence has before its last one. -/
def inner : Text := sequences.flatMap List.dropLast

/-- No sequence that begins in the text can go on behind it. -/
def EndsClear (t : Text) : Prop := ∃ c, t.getLast? = some c ∧ c ∉ inner

theorem start_mem_sequences (colour : Colour) : colour.start ∈ sequences := by
  cases colour <;> decide

theorem stop_mem_sequences : stop ∈ sequences := by decide

theorem erase_sequence {s : Text} (h : s ∈ sequences) (t : Text) : erase (s ++ t) = erase t := by
  simp only [sequences, List.mem_cons, List.not_mem_nil, or_false] at h
  rcases h with rfl | rfl | rfl <;> rfl

theorem erase_cons {c : Char} {t : Text} (h : ∀ s ∈ sequences, ¬ s <+: c :: t) :
    erase (c :: t) = c :: erase t := by
  rw [erase]
  · rintro u rfl rfl
    exact h (start .red) (by decide) (List.prefix_append (start .red) u)
  · rintro u rfl rfl
    exact h (start .green) (by decide) (List.prefix_append (start .green) u)
  · rintro u rfl rfl
    exact h stop (by decide) (List.prefix_append stop u)

theorem resume_stop (colour t : Text) :
    resume colour (stop ++ t) = stop ++ (colour ++ resume colour t) := by
  show resume colour ('\x1b' :: '[' :: '0' :: 'm' :: t) = _
  rw [resume, List.append_assoc]

theorem resume_cons (colour : Text) {c : Char} {t : Text} (h : ¬ stop <+: c :: t) :
    resume colour (c :: t) = c :: resume colour t := by
  rw [resume]
  rintro u rfl rfl
  exact h (List.prefix_append stop u)

theorem resume_start (colour : Text) (other : Colour) (t : Text) :
    resume colour (other.start ++ t) = other.start ++ resume colour t := by
  cases other <;> rfl

theorem resume_sequence (colour : Colour) {s : Text} (h : s ∈ sequences) (t : Text) :
    resume colour.start (s ++ t) = s ++ resume colour.start t ∨
      resume colour.start (s ++ t) = s ++ colour.start ++ resume colour.start t := by
  simp only [sequences, List.mem_cons, List.not_mem_nil, or_false] at h
  rcases h with rfl | rfl | rfl
  · exact Or.inl (resume_start ..)
  · exact Or.inl (resume_start ..)
  · exact Or.inr ((resume_stop ..).trans (List.append_assoc ..).symm)

/-- What stands before the first escape is the same after painting. -/
theorem prefix_resume_iff (colour : Text) {s : Text} (h : '\x1b' ∉ s) (t : Text) :
    s <+: resume colour t ↔ s <+: t := by
  induction s generalizing t with
  | nil => simp only [List.nil_prefix]
  | cons a s ih =>
    rw [List.mem_cons, not_or] at h
    by_cases hstop : stop <+: t
    · obtain ⟨u, rfl⟩ := hstop
      have hno : ∀ v, ¬ a :: s <+: stop ++ v := fun v hp =>
        h.1 (List.cons_prefix_cons.mp hp).1.symm
      rw [resume_stop]
      exact iff_of_false (hno _) (hno _)
    · cases t with
      | nil => rfl
      | cons c t =>
        rw [resume_cons colour hstop, List.cons_prefix_cons, List.cons_prefix_cons, ih h.2]

/-- A text is gone through as `erase` does it. -/
@[elab_as_elim]
theorem sequence_induction {motive : Text → Prop} (nil : motive [])
    (sequence : ∀ s ∈ sequences, ∀ t, motive t → motive (s ++ t))
    (cons : ∀ c t, (∀ s ∈ sequences, ¬ s <+: c :: t) → motive t → motive (c :: t)) (t : Text) :
    motive t := by
  induction h : t.length using Nat.strongRecOn generalizing t with
  | ind n ih =>
    subst h
    by_cases hs : ∃ s ∈ sequences, s <+: t
    · obtain ⟨s, hs, u, rfl⟩ := hs
      have hpos : 0 < s.length := (by decide : ∀ s ∈ sequences, 0 < s.length) s hs
      refine sequence s hs u (ih u.length ?_ u rfl)
      rw [List.length_append]
      omega
    · cases t with
      | nil => exact nil
      | cons c t =>
        exact cons c t (fun s hs' hp => hs ⟨s, hs', hp⟩) (ih t.length (Nat.lt_succ_self _) t rfl)

/-- A sequence is an escape and a tail without one. -/
theorem eq_cons_of_mem_sequences {s : Text} (h : s ∈ sequences) :
    ∃ tail, s = '\x1b' :: tail ∧ '\x1b' ∉ tail := by
  refine ⟨s.tail, ?_, ?_⟩
  · exact (by decide : ∀ s ∈ sequences, s = '\x1b' :: s.tail) s h
  · exact (by decide : ∀ s ∈ sequences, '\x1b' ∉ s.tail) s h

theorem erase_resume (colour : Colour) (t : Text) : erase (resume colour.start t) = erase t := by
  induction t using sequence_induction with
  | nil => rfl
  | sequence s hs t ih =>
    rw [erase_sequence hs, ← ih]
    rcases resume_sequence colour hs t with he | he
    · rw [he, erase_sequence hs]
    · rw [he, List.append_assoc, erase_sequence hs, erase_sequence (start_mem_sequences colour)]
  | cons c t h ih =>
    rw [resume_cons _ (h stop stop_mem_sequences), erase_cons h, erase_cons, ih]
    intro s hs hp
    obtain ⟨tail, rfl, htail⟩ := eq_cons_of_mem_sequences hs
    obtain ⟨hc, hp⟩ := List.cons_prefix_cons.mp hp
    exact h _ hs (List.cons_prefix_cons.mpr ⟨hc, (prefix_resume_iff _ htail t).mp hp⟩)

/-! ## Ends -/

theorem endsClear_append (s : Text) {t : Text} (h : EndsClear t) : EndsClear (s ++ t) := by
  obtain ⟨c, hc, hclear⟩ := h
  exact ⟨c, by rw [List.getLast?_append, hc, Option.some_or], hclear⟩

theorem EndsClear.of_append {s t : Text} (h : EndsClear (s ++ t)) (ht : t ≠ []) : EndsClear t := by
  obtain ⟨c, hc, hclear⟩ := h
  obtain ⟨last, hlast⟩ := Option.ne_none_iff_exists'.mp (mt List.getLast?_eq_none_iff.mp ht)
  rw [List.getLast?_append, hlast, Option.some_or] at hc
  exact ⟨c, hlast.trans hc, hclear⟩

/-- What begins before a clear end is over there. -/
theorem prefix_of_prefix_append {s t : Text} (hs : s ∈ sequences) (ht : EndsClear t) {u : Text}
    (h : s <+: t ++ u) : s <+: t := by
  rcases List.prefix_or_prefix_of_prefix h (List.prefix_append t u) with h | ⟨v, rfl⟩
  · exact h
  · by_cases hv : v = []
    · simp [hv]
    · obtain ⟨last, hlast, hclear⟩ := ht
      have hmem : last ∈ (t ++ v).dropLast := by
        rw [List.dropLast_append_of_ne_nil hv]
        exact List.mem_append_left _ (List.mem_of_getLast? hlast)
      exact absurd (List.mem_flatMap.mpr ⟨_, hs, hmem⟩) hclear

theorem erase_append {t : Text} (h : EndsClear t) (u : Text) :
    erase (t ++ u) = erase t ++ erase u := by
  induction t using sequence_induction with
  | nil => rfl
  | sequence s hs t ih =>
    rw [List.append_assoc, erase_sequence hs, erase_sequence hs]
    by_cases ht : t = []
    · rw [ht]
      rfl
    · exact ih (h.of_append ht)
  | cons c t hno ih =>
    have hstill : ∀ s ∈ sequences, ¬ s <+: c :: (t ++ u) := by
      intro s hs hp
      exact hno s hs (prefix_of_prefix_append hs h hp)
    rw [List.cons_append, erase_cons hstill, erase_cons hno, List.cons_append]
    by_cases ht : t = []
    · rw [ht]
      rfl
    · have hrest : EndsClear ([c] ++ t) := h
      rw [ih (hrest.of_append ht)]

theorem endsClear_sequence {s : Text} (h : s ∈ sequences) : EndsClear s := by
  refine ⟨'m', ?_, by decide⟩
  exact (by decide : ∀ s ∈ sequences, s.getLast? = some 'm') s h

theorem endsClear_resume (colour : Colour) {t : Text} (h : EndsClear t) :
    EndsClear (resume colour.start t) := by
  induction t using sequence_induction with
  | nil => exact h
  | sequence s hs t ih =>
    obtain ⟨made, hclear, he⟩ : ∃ made, EndsClear made ∧
        resume colour.start (s ++ t) = made ++ resume colour.start t := by
      rcases resume_sequence colour hs t with he | he
      · exact ⟨s, endsClear_sequence hs, he⟩
      · exact ⟨_, endsClear_append s (endsClear_sequence (start_mem_sequences colour)), he⟩
    rw [he]
    by_cases ht : t = []
    · rw [ht, resume, List.append_nil]
      exact hclear
    · exact endsClear_append made (ih (h.of_append ht))
  | cons c t hno ih =>
    rw [resume_cons _ (hno stop stop_mem_sequences)]
    by_cases ht : t = []
    · rw [ht] at h ⊢
      exact h
    · have hrest : EndsClear ([c] ++ t) := h
      exact endsClear_append [c] (ih (hrest.of_append ht))

/-! ## Painted texts -/

theorem endsClear_paint (palette : Palette) (colour : Colour) {t : Text} (h : EndsClear t) :
    EndsClear (palette.paint colour t) := by
  rw [Palette.paint]
  split
  · exact endsClear_append _ (endsClear_sequence stop_mem_sequences)
  · exact h

theorem erase_paint (palette : Palette) (colour : Colour) {t : Text} (h : EndsClear t) :
    erase (palette.paint colour t) = erase t := by
  rw [Palette.paint]
  split
  · have hstop : erase stop = [] := rfl
    rw [paint, List.append_assoc, erase_sequence (start_mem_sequences colour),
      erase_append (endsClear_resume colour h), erase_resume, hstop, List.append_nil]
  · rfl

/-- What is left after one pass may be a sequence again. -/
example : erase "\x1b[3\x1b[0m1m".toList = start .red := by decide

end Colour
end SimReport
