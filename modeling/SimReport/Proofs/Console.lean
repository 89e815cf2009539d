/-
Printing to a sink that may be limited.

Lines are refused one by one, yet whether all of them are taken only depends on
the size of the whole text (`printAll_eq`), because what is left of the room after
some lines is what the lines did not need.
-/
import SimReport.Console

namespace SimReport

theorem Line.benchmarks_eq (palette : Palette) (rows : List Row) :
    benchmarks palette rows =
      (rows.zipIdx 1).map fun numbered => benchmark palette numbered.2 numbered.1 := rfl

namespace Console

/-- The sink still takes the text. -/
def takes (console : Console) (t : Text) : Bool :=
  console.room.all fun room => t.byteLength ≤ room

/-- The console once the text has been taken. -/
def wrote (console : Console) (t : Text) : Console :=
  { console with
    room := console.room.map fun room => room - t.byteLength
    text := console.text ++ t }

def refused : Failure := ⟨[.writeLine], .sinkFull⟩

@[simp] theorem palette_wrote (console : Console) (t : Text) :
    (console.wrote t).palette = console.palette := rfl

@[simp] theorem text_wrote (console : Console) (t : Text) :
    (console.wrote t).text = console.text ++ t := rfl

theorem takes_of_room {console : Console} (h : console.room = none) (t : Text) :
    console.takes t = true := by
  rw [takes, h]
  rfl

theorem wrote_of_room {console : Console} (h : console.room = none) (t : Text) :
    console.wrote t = { console with text := console.text ++ t } := by
  rw [wrote, h]
  rfl

theorem takes_nil (console : Console) : console.takes [] = true := by
  rw [takes]
  cases console.room with
  | none => rfl
  | some room => exact decide_eq_true (Nat.zero_le room)

theorem wrote_nil (console : Console) : console.wrote [] = console := by
  obtain ⟨palette, room, text⟩ := console
  cases room <;> simp [wrote]

theorem takes_append (console : Console) (s t : Text) :
    console.takes (s ++ t) = (console.takes s && (console.wrote s).takes t) := by
  obtain ⟨palette, room, text⟩ := console
  cases room with
  | none => rfl
  | some room =>
    simp only [takes, wrote, Option.map_some, Option.all_some, Text.byteLength_append]
    rw [← Bool.decide_and]
    apply decide_eq_decide.mpr
    omega

theorem wrote_append (console : Console) (s t : Text) :
    console.wrote (s ++ t) = (console.wrote s).wrote t := by
  obtain ⟨palette, room, text⟩ := console
  cases room with
  | none => simp only [wrote, Option.map_none, List.append_assoc]
  | some room =>
    simp only [wrote, Option.map_some, Text.byteLength_append, List.append_assoc, Nat.sub_sub]

theorem print_eq (console : Console) (line : Text) :
    console.print line =
      if console.takes line then .ok (console.wrote line) else .error refused := by
  obtain ⟨palette, room, text⟩ := console
  cases room with
  | none => rfl
  | some room =>
    simp only [print, takes, Option.all_some, decide_eq_true_eq]
    rfl

theorem printAll_eq (console : Console) (lines : List Text) :
    console.printAll lines =
      if console.takes lines.flatten then .ok (console.wrote lines.flatten)
      else .error refused := by
  induction lines generalizing console with
  | nil => rw [printAll, List.flatten_nil, takes_nil, if_pos rfl, wrote_nil]
  | cons line lines ih =>
    rw [printAll, print_eq, List.flatten_cons, takes_append, wrote_append]
    cases console.takes line with
    | false => rfl
    | true =>
      rw [if_pos rfl, Bool.true_and]
      exact ih (console.wrote line)

end Console
end SimReport
