/-
Texts whose lines end in two characters.

`crlf` puts a carriage return before every line feed.  Both characters are
blank and neither is a digit sign, so blanks are trimmed to the same numeral
(`trim_crlf`), and a text that is no numeral does not become one.  A marker
without either character occurs after the change exactly where it did before
(`seek?_crlf`).
-/
import SimReport.Proofs.Text.Numeral
import SimReport.Proofs.Text.Search

namespace SimReport
namespace Text

/-- The text with a carriage return before every line feed. -/
def crlf (t : Text) : Text := t.flatMap fun c => if c = '\n' then ['\r', '\n'] else [c]

theorem crlf_append (s t : Text) : crlf (s ++ t) = crlf s ++ crlf t := List.flatMap_append

theorem crlf_newline (t : Text) : crlf ('\n' :: t) = '\r' :: '\n' :: crlf t := rfl

theorem crlf_cons {c : Char} (h : c ≠ '\n') (t : Text) : crlf (c :: t) = c :: crlf t := by
  rw [crlf, List.flatMap_cons, if_neg h]
  rfl

theorem crlf_of_not_mem {t : Text} (h : '\n' ∉ t) : crlf t = t := by
  induction t with
  | nil => rfl
  | cons c t ih =>
    rw [List.mem_cons, not_or] at h
    rw [crlf_cons (fun hc => h.1 hc.symm), ih h.2]

theorem mem_crlf_of_mem {t : Text} {c : Char} (h : c ∈ t) : c ∈ crlf t := by
  refine List.mem_flatMap.mpr ⟨c, h, ?_⟩
  split
  · next hc => rw [hc]; exact List.mem_cons_of_mem _ List.mem_cons_self
  · exact List.mem_cons_self

/-! ## Numerals -/

theorem dropWhile_isBlank_crlf (t : Text) :
    (crlf t).dropWhile isBlank = crlf (t.dropWhile isBlank) := by
  induction t with
  | nil => rfl
  | cons c t ih =>
    by_cases hc : c = '\n'
    · subst hc
      exact ih
    · by_cases hblank : isBlank c = true
      · rw [crlf_cons hc, List.dropWhile_cons_of_pos hblank, List.dropWhile_cons_of_pos hblank, ih]
      · rw [crlf_cons hc, List.dropWhile_cons_of_neg hblank, List.dropWhile_cons_of_neg hblank,
          crlf_cons hc]

theorem dropWhile_isBlank_reverse_crlf (t : Text) :
    ((crlf t).reverse.dropWhile isBlank).reverse = crlf (t.reverse.dropWhile isBlank).reverse := by
  induction t using List.reverseRecOn with
  | nil => rfl
  | append_singleton t c ih =>
    by_cases hc : c = '\n'
    · subst hc
      rw [crlf_append, List.reverse_append, List.reverse_append]
      exact ih
    · have hsingle : crlf [c] = [c] := crlf_cons hc []
      rw [crlf_append, hsingle, List.reverse_append, List.reverse_append, List.reverse_singleton,
        List.singleton_append, List.singleton_append]
      by_cases hblank : isBlank c = true
      · rw [List.dropWhile_cons_of_pos hblank, List.dropWhile_cons_of_pos hblank, ih]
      · rw [List.dropWhile_cons_of_neg hblank, List.dropWhile_cons_of_neg hblank, List.reverse_cons,
          List.reverse_cons, List.reverse_reverse, List.reverse_reverse, crlf_append, hsingle]

theorem trim_crlf (t : Text) : trim (crlf t) = crlf (trim t) := by
  rw [trim, dropWhile_isBlank_crlf, dropWhile_isBlank_reverse_crlf, trim]

theorem trim_append_blank {c : Char} (h : isBlank c = true) (t : Text) :
    trim (t ++ [c]) = trim t := by
  rw [trim, trim, List.dropWhile_append]
  split
  · next hall =>
    rw [List.dropWhile_cons_of_pos h, List.isEmpty_iff.mp hall]
    rfl
  · rw [List.reverse_append, List.reverse_singleton, List.singleton_append,
      List.dropWhile_cons_of_pos h]

theorem readWord?_congr {r : Radix} {s t : Text} (h : trim s = trim t) :
    readWord? r s = readWord? r t := by
  rw [readWord?, readWord?, h]

theorem readWord?_eq_none_of_newline {r : Radix} {t : Text} (h : '\n' ∈ trim t) :
    readWord? r t = none := by
  cases hread : readWord? r t with
  | none => rfl
  | some w =>
    have hblank := not_isBlank_of_readWord? hread '\n' h
    cases hblank

/-- A line feed inside a numeral spoils it, and around it both characters are trimmed. -/
theorem readWord?_crlf (r : Radix) (t : Text) : readWord? r (crlf t) = readWord? r t := by
  by_cases h : '\n' ∈ trim t
  · rw [readWord?_eq_none_of_newline h, readWord?_eq_none_of_newline]
    rw [trim_crlf]
    exact mem_crlf_of_mem h
  · refine readWord?_congr ?_
    rw [trim_crlf, crlf_of_not_mem h]

/-! ## Markers -/

theorem prefix_crlf_iff {marker t : Text} (hn : '\n' ∉ marker) (hr : '\r' ∉ marker) :
    marker <+: crlf t ↔ marker <+: t := by
  induction marker generalizing t with
  | nil => simp
  | cons d marker ih =>
    rw [List.mem_cons, not_or] at hn hr
    cases t with
    | nil => rfl
    | cons c t =>
      by_cases hc : c = '\n'
      · subst hc
        rw [crlf_newline, List.cons_prefix_cons, List.cons_prefix_cons]
        exact ⟨fun h => absurd h.1.symm hr.1, fun h => absurd h.1.symm hn.1⟩
      · rw [crlf_cons hc, List.cons_prefix_cons, List.cons_prefix_cons, ih hn.2 hr.2]

theorem seek?_crlf {marker : Text} (hne : marker ≠ []) (hn : '\n' ∉ marker) (hr : '\r' ∉ marker)
    (t : Text) : (crlf t).seek? marker = (t.seek? marker).map crlf := by
  have hhead : ∀ {c : Char}, c ∉ marker → ∀ u : Text, ¬ marker <+: c :: u := by
    intro c hc u h
    obtain ⟨d, rest, rfl⟩ := List.exists_cons_of_ne_nil hne
    exact hc (List.mem_cons.mpr (Or.inl (List.cons_prefix_cons.mp h).1.symm))
  induction t with
  | nil => cases marker <;> simp [crlf, seek?]
  | cons c t ih =>
    by_cases hc : c = '\n'
    · subst hc
      rw [crlf_newline, seek?_cons_of_not_start (hhead hr _),
        seek?_cons_of_not_start (hhead hn _), seek?_cons_of_not_start (hhead hn _), ih]
    · by_cases hstart : marker <+: c :: t
      · have hstart' : marker <+: crlf (c :: t) := (prefix_crlf_iff hn hr).mpr hstart
        rw [seek?_of_start hstart, seek?_of_start hstart']
        rfl
      · have hstart' : ¬ marker <+: crlf (c :: t) := mt (prefix_crlf_iff hn hr).mp hstart
        rw [crlf_cons hc] at hstart' ⊢
        rw [seek?_cons_of_not_start hstart, seek?_cons_of_not_start hstart', ih]

/-! ## Values -/

theorem takeWhile_newline_crlf (t : Text) :
    (crlf t).takeWhile (· != '\n') =
      t.takeWhile (· != '\n') ++ if '\n' ∈ t then ['\r'] else [] := by
  induction t with
  | nil => rfl
  | cons c t ih =>
    by_cases hc : c = '\n'
    · subst hc
      simp [crlf_newline]
    · have hne : '\n' ≠ c := fun h => hc h.symm
      simp [crlf_cons hc, hc, hne, ih]

theorem takeWhile_crlf {c : Char} (hn : c ≠ '\n') (hr : c ≠ '\r') (t : Text) :
    (crlf t).takeWhile (· != c) = crlf (t.takeWhile (· != c)) := by
  induction t with
  | nil => rfl
  | cons d t ih =>
    by_cases hd : d = '\n'
    · subst hd
      simp [crlf_newline, hn.symm, hr.symm, ih]
    · by_cases hdc : d = c
      · subst hdc
        rw [crlf_cons hd]
        simp [crlf]
      · simp [crlf_cons hd, hdc, ih]

end Text
end SimReport
