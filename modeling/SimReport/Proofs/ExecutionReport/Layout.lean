/-
Reading back a report that is written in any of its layouts.

A report of given values opens with the exit code behind the anchor.  Each
counter has a line of its own, in any order, with any number of other lines
between them.  Around a marker and its value stands filler, which may be any
text within a line that does not have a marker itself, and the value may have
blanks around it, leading zeros, a hexadecimal mark and letters of either case.

The main statement is `ofLog_append_text`.  Behind any text without an anchor,
stale counters included, every layout is read back as the values it is for.
The search for a marker passes over every line but its own and ends on its own
line with its value, because no marker arises where the parts of a line meet.
-/
import SimReport.Proofs.ExecutionReport.Scraping
import SimReport.Proofs.Text.Numeral

namespace SimReport
namespace Layout

/-- A text within a line that does not have a marker. -/
structure Filler where
  text : Text
  unbroken : '\n' ∉ text := by decide
  unmarked : ∀ marker ∈ Marker.all, ¬ marker.text <:+: text := by decide

def Filler.empty : Filler := { text := [] }

structure Spacing where
  text : Text
  blank : ∀ c ∈ text, Text.isBlank c = true := by exact List.all_eq_true.mp (by decide)
  unbroken : '\n' ∉ text := by decide

/-- A way to write a word: its digits in either case, behind zeros and a mark. -/
structure Numeral (r : Radix) (w : UInt64) where
  mark : Text := []
  mark_mem : mark ∈ Text.marksOf r := by decide
  zeros : Nat := 0
  digits : Text
  lower : digits.map Char.toLower = Nat.toDigits r.base w.toNat := by decide

/-- A marker with its value, up to the end of the line.  The tail stands behind
the terminator, unless that ends the line itself. -/
structure Field (marker : Marker) (w : UInt64) where
  left : Spacing
  numeral : Numeral marker.radix w
  right : Spacing
  tail : Filler

/-- A line behind the first one of a report. -/
inductive Line (counters : Counters)
  | noise (filler : Filler)
  | counter (c : Counter) (before : Filler) (field : Field (Marker.ofCounter c) (counters.get c))

namespace Numeral

variable {r : Radix} {w : UInt64}

def significand (n : Numeral r w) : Text := List.replicate n.zeros '0' ++ n.digits

theorem digitsValue?_significand (hr : r.base ≤ 16) (n : Numeral r w) :
    Text.digitsValue? r n.significand = some w.toNat := by
  rw [significand, Text.digitsValue?_zeros, ← Text.digitsValue?_map_toLower, n.lower,
    Text.digitsValue?_toDigits hr]

theorem significand_ne_nil (n : Numeral r w) : n.significand ≠ [] := by
  intro h
  have hdigits : n.digits = [] := (List.append_eq_nil_iff.mp h).2
  have hlower := n.lower
  rw [hdigits, List.map_nil] at hlower
  exact Nat.toDigits_ne_nil hlower.symm

end Numeral

/-! ## One field -/

namespace Field

variable {marker : Marker} {w : UInt64}

/-- What stands between the marker and its terminator. -/
def value (field : Field marker w) : Text :=
  field.left.text ++ (field.numeral.mark ++ field.numeral.significand ++ field.right.text)

def closing (field : Field marker w) : Text :=
  if marker.terminator = '\n' then [] else marker.terminator :: field.tail.text

def text (field : Field marker w) : Text := marker.text ++ (field.value ++ field.closing)

theorem readWord?_value (hm : marker ∈ Marker.all) (field : Field marker w) :
    Text.readWord? marker.radix field.value = some w :=
  Text.readWord?_pad field.left.blank field.right.blank field.numeral.mark_mem
    (field.numeral.digitsValue?_significand (Marker.base_le_sixteen marker hm))
    field.numeral.significand_ne_nil

theorem isFigure_value (hm : marker ∈ Marker.all) (field : Field marker w) :
    ∀ c ∈ field.value, Text.isFigure c = true := by
  have hspacing : ∀ (s : Spacing), ∀ c ∈ s.text, Text.isFigure c = true := fun s c hc => by
    rw [Text.isFigure, s.blank c hc]
    rfl
  have hbase := Marker.base_le_sixteen marker hm
  intro c hc
  rw [value, List.mem_append, List.mem_append, List.mem_append] at hc
  rcases hc with hc | (hc | hc) | hc
  · exact hspacing field.left c hc
  · exact Text.isFigure_of_mem_marksOf field.numeral.mark_mem c hc
  · have hsign := Text.digit?_of_digitsValue? (field.numeral.digitsValue?_significand hbase) hc
    exact Text.isFigure_of_digit? hbase hsign
  · exact hspacing field.right c hc

theorem newline_not_mem_value (hm : marker ∈ Marker.all) (field : Field marker w) :
    '\n' ∉ field.value := by
  intro h
  rw [value, List.mem_append, List.mem_append, List.mem_append] at h
  rcases h with h | (h | h) | h
  · exact field.left.unbroken h
  · have hblank := Text.not_isBlank_of_mem_marksOf field.numeral.mark_mem _ h
    cases hblank
  · have hvalue := field.numeral.digitsValue?_significand (Marker.base_le_sixteen marker hm)
    have hblank := Radix.not_isBlank_of_digit? (Text.digit?_of_digitsValue? hvalue h)
    cases hblank
  · exact field.right.unbroken h

theorem terminator_not_mem_value (hm : marker ∈ Marker.all) (field : Field marker w) :
    marker.terminator ∉ field.value := by
  rcases Marker.terminator_eq marker hm with ht | ht
  · rw [ht]
    exact field.newline_not_mem_value hm
  · rw [ht]
    intro h
    have hfigure := field.isFigure_value hm _ h
    cases hfigure

end Field

/-! ## One line

What follows a line is either nothing or begins with the line break. -/

def EndsLine (u : Text) : Prop := u = [] ∨ u.head? = some '\n'

theorem EndsLine.clear {u : Text} (h : EndsLine u) {m : Marker} (hm : m ∈ Marker.all) :
    Text.Clear m.text u := by
  rcases h with rfl | h
  · exact Text.clear_nil m.text
  · obtain ⟨v, rfl⟩ := List.head?_eq_some_iff.mp h
    exact Text.clear_cons (Marker.newline_not_mem_text m hm) v

theorem scrape?_newline {m : Marker} (hm : m ∈ Marker.all) (t : Text) :
    m.scrape? ('\n' :: t) = m.scrape? t := by
  refine Marker.scrape?_congr (Marker.seek?_figures hm (v := ['\n']) (fun c hc => ?_) t)
  rw [List.mem_singleton.mp hc]
  rfl

theorem scrape?_noise {m : Marker} (hm : m ∈ Marker.all) (filler : Filler) {u : Text}
    (hu : EndsLine u) : m.scrape? (filler.text ++ u) = m.scrape? u :=
  Marker.scrape?_congr (Text.seek?_append_of_clear (filler.unmarked m hm) (hu.clear hm))

theorem scrape?_field {m : Marker} (hm : m ∈ Marker.all) {w : UInt64} (before : Filler)
    (field : Field m w) {u : Text} (hu : EndsLine u) :
    m.scrape? (before.text ++ (field.text ++ u)) = some w := by
  have hfound : (before.text ++ (field.text ++ u)).seek? m.text =
      some (m.text ++ (field.value ++ (field.closing ++ u))) := by
    rw [Field.text, List.append_assoc, List.append_assoc]
    exact Marker.seek?_self hm (before.unmarked m hm) _
  have hclosing : field.closing ++ u = [] ∨ (field.closing ++ u).head? = some m.terminator := by
    rw [Field.closing]
    split
    · next ht => rw [List.nil_append, ht]; exact hu
    · exact Or.inr rfl
  rw [Marker.scrape?, Text.between?_of_seek? hfound (field.terminator_not_mem_value hm) hclosing,
    Option.bind_some, field.readWord?_value hm]

theorem seek?_closing {m other : Marker} (hm : m ∈ Marker.all) (hother : other ∈ Marker.all)
    {w : UInt64} (field : Field other w) {u : Text} (hu : EndsLine u) :
    (field.closing ++ u).seek? m.text = u.seek? m.text := by
  rw [Field.closing]
  split
  · rfl
  · next ht =>
    have hopen : other.terminator = '(' := (Marker.terminator_eq other hother).resolve_left ht
    have hnot : ¬ m.text <+: '(' :: (field.tail.text ++ u) := by
      intro h
      obtain ⟨c, t, hct⟩ := List.exists_cons_of_ne_nil (Marker.text_ne_nil m hm)
      rw [hct, List.cons_prefix_cons] at h
      exact Marker.parenthesis_not_mem_text m hm (by rw [hct, h.1]; exact List.mem_cons_self)
    rw [hopen, List.cons_append, Text.seek?_cons_of_not_start hnot]
    exact Text.seek?_append_of_clear (field.tail.unmarked m hm) (hu.clear hm)

theorem scrape?_field_of_ne {m other : Marker} (hm : m ∈ Marker.all) (hother : other ∈ Marker.all)
    (hne : m ≠ other) {w : UInt64} (before : Filler) (field : Field other w) {u : Text}
    (hu : EndsLine u) : m.scrape? (before.text ++ (field.text ++ u)) = m.scrape? u := by
  refine Marker.scrape?_congr ?_
  rw [Field.text, List.append_assoc, List.append_assoc,
    Marker.seek?_other hm hother hne (before.unmarked m hm),
    Marker.seek?_figures hm (field.isFigure_value hother), seek?_closing hm hother field hu]

/-! ## All lines -/

namespace Line

variable {counters : Counters}

def text : Line counters → Text
  | noise filler => filler.text
  | counter _ before field => before.text ++ field.text

def counter? : Line counters → Option Counter
  | noise _ => none
  | counter c _ _ => some c

end Line

def following {counters : Counters} (lines : List (Line counters)) (closed : Bool) : Text :=
  lines.flatMap (fun line => '\n' :: line.text) ++ if closed then ['\n'] else []

theorem following_cons {counters : Counters} (line : Line counters) (lines : List (Line counters))
    (closed : Bool) :
    following (line :: lines) closed = '\n' :: (line.text ++ following lines closed) := by
  simp only [following, List.flatMap_cons, List.cons_append, List.append_assoc]

theorem endsLine_following {counters : Counters} (lines : List (Line counters)) (closed : Bool) :
    EndsLine (following lines closed) := by
  cases lines with
  | nil =>
    cases closed
    · exact Or.inl rfl
    · exact Or.inr rfl
  | cons line lines =>
    rw [following_cons]
    exact Or.inr rfl

theorem scrape?_following {counters : Counters} {c : Counter} {lines : List (Line counters)}
    (hc : c ∈ lines.filterMap Line.counter?) (closed : Bool) :
    (Marker.ofCounter c).scrape? (following lines closed) = some (counters.get c) := by
  have hm := Marker.ofCounter_mem_all c
  induction lines with
  | nil => exact absurd hc List.not_mem_nil
  | cons line lines ih =>
    have hends := endsLine_following lines closed
    rw [following_cons, scrape?_newline hm]
    cases line with
    | noise filler => exact (scrape?_noise hm filler hends).trans (ih hc)
    | counter d before field =>
      rw [Line.text, List.append_assoc]
      by_cases hd : c = d
      · subst hd
        exact scrape?_field hm before field hends
      · have hrest : c ∈ lines.filterMap Line.counter? := by
          rw [List.filterMap_cons] at hc
          exact (List.mem_cons.mp hc).resolve_left hd
        have hne : Marker.ofCounter c ≠ Marker.ofCounter d :=
          fun h => hd (Marker.ofCounter_injective h)
        rw [scrape?_field_of_ne hm (Marker.ofCounter_mem_all d) hne before field hends]
        exact ih hrest

end Layout

/-- A report of an exit code and nine counters, one line for each counter. -/
structure Layout (code : UInt64) (counters : Counters) where
  opening : Layout.Field Marker.exitCode code
  lines : List (Layout.Line counters)
  complete : (lines.filterMap Layout.Line.counter?).Perm Counter.all := by decide
  closed : Bool

namespace Layout

variable {code : UInt64} {counters : Counters}

def text (layout : Layout code counters) : Text :=
  layout.opening.text ++ following layout.lines layout.closed

/-- Behind a text without the anchor, every layout is read as the values it is for. -/
theorem ofLog_append_text {preamble : Text} (h : ¬ Marker.anchor <:+: preamble)
    (layout : Layout code counters) :
    Metrics.ofLog (preamble ++ layout.text) = { exitCode := some code, counters := counters } := by
  have hanchor : Marker.anchor <+: layout.text := by
    rw [text, Field.text, List.append_assoc]
    exact List.prefix_append Marker.anchor _
  have hends := endsLine_following layout.lines layout.closed
  have hvalue : ∀ {m : Marker} {w : UInt64}, m ∈ Marker.all → m.scrape? layout.text = some w →
      (Metrics.ofReport layout.text).value m.metric = some w := by
    intro m w hm hscrape
    rw [Metrics.value_ofReport hm, hscrape]
    cases m.metric <;> rfl
  rw [Metrics.ofLog, executionReport_append h hanchor]
  refine Metrics.ext_value fun metric => ?_
  cases metric with
  | exitCode =>
    refine hvalue Marker.exitCode_mem_all ?_
    exact scrape?_field Marker.exitCode_mem_all Filler.empty layout.opening hends
  | counter c =>
    have hm := Marker.ofCounter_mem_all c
    have hne : Marker.ofCounter c ≠ Marker.exitCode := (Marker.exitCode_ne_ofCounter c).symm
    have hopening : (Marker.ofCounter c).scrape? layout.text =
        (Marker.ofCounter c).scrape? (following layout.lines layout.closed) :=
      scrape?_field_of_ne hm Marker.exitCode_mem_all hne Filler.empty layout.opening hends
    have hline : c ∈ layout.lines.filterMap Line.counter? :=
      layout.complete.mem_iff.mpr c.mem_all
    have hcounter := hvalue hm (hopening.trans (scrape?_following hline layout.closed))
    rw [Marker.metric_ofCounter] at hcounter
    exact hcounter

/-- Counters in an order of their own, with filler, blanks and zeros in places. -/
def reordered : Layout 255
    { instructions := 1200, cycles := 18446744073709551615, jumps := 12, loads := 200 } :=
  let blank : Spacing := { text := [' '] }
  let gap : Spacing := { text := [] }
  let percent : Filler := { text := "1.00%)".toList }
  { opening := ⟨gap, { mark := ['0', 'X'], zeros := 2, digits := ['f', 'F'] }, blank, percent⟩
    lines :=
      [.noise { text := "Execution report".toList },
        .counter .readRequests .empty ⟨blank, { digits := ['0'] }, blank, percent⟩,
        .counter .cycles { text := "- ".toList }
          ⟨gap, { digits := "18446744073709551615".toList }, { text := ['\t', '\r'] }, .empty⟩,
        .counter .loads { text := "- loads".toList }
          ⟨blank, { zeros := 30, digits := "200".toList }, blank, percent⟩,
        .noise .empty,
        .counter .jumps .empty ⟨gap, { digits := "12".toList }, gap, percent⟩,
        .counter .stores .empty ⟨blank, { digits := ['0'] }, blank, .empty⟩,
        .counter .branches .empty ⟨blank, { digits := ['0'] }, blank, percent⟩,
        .counter .writeRequests .empty ⟨gap, { digits := ['0'] }, blank, percent⟩,
        .counter .instructionFetches .empty ⟨blank, { digits := ['0'] }, blank, percent⟩,
        .counter .instructions { text := "- ".toList }
          ⟨blank, { digits := "1200".toList }, gap, .empty⟩]
    closed := false }

theorem ofLog_reordered :
    ¬ Marker.anchor <:+: "- jumps: 999 (stale)\nProgram exit with code".toList ∧
      Metrics.ofLog ("- jumps: 999 (stale)\nProgram exit with code".toList ++ reordered.text) =
        { exitCode := some 255, counters :=
          { instructions := 1200, cycles := 18446744073709551615, jumps := 12, loads := 200 } } :=
  ⟨by decide, ofLog_append_text (by decide) reordered⟩

end Layout
end SimReport
