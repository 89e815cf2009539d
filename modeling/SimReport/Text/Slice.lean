/-
Parts of a text by their offsets in bytes.  An offset inside a character cuts
nothing.
-/
import SimReport.Text

namespace SimReport
namespace Text

def dropBytes? : Nat → Text → Option Text
  | 0, t => some t
  | _ + 1, [] => none
  | n + 1, c :: t => if c.utf8Size ≤ n + 1 then dropBytes? (n + 1 - c.utf8Size) t else none

def takeBytes? : Nat → Text → Option Text
  | 0, _ => some []
  | _ + 1, [] => none
  | n + 1, c :: t =>
    if c.utf8Size ≤ n + 1 then (takeBytes? (n + 1 - c.utf8Size) t).map (c :: ·) else none

def slice? (t : Text) (start stop : Nat) : Option Text :=
  (dropBytes? start t).bind (takeBytes? (stop - start))

theorem dropBytes?_append (s t : Text) : dropBytes? s.byteLength (s ++ t) = some t := by
  induction s with
  | nil => simp [dropBytes?]
  | cons c s ih =>
    have h : byteLength (c :: s) = c.utf8Size + byteLength s := by simp [byteLength]
    have hc : 0 < c.utf8Size := c.utf8Size_pos
    obtain ⟨n, hn⟩ : ∃ n, byteLength (c :: s) = n + 1 := ⟨byteLength (c :: s) - 1, by omega⟩
    have hs : n + 1 - c.utf8Size = byteLength s := by omega
    rw [hn, List.cons_append, dropBytes?, if_pos (by omega), hs, ih]

theorem takeBytes?_append (s t : Text) : takeBytes? s.byteLength (s ++ t) = some s := by
  induction s with
  | nil => simp [takeBytes?]
  | cons c s ih =>
    have h : byteLength (c :: s) = c.utf8Size + byteLength s := by simp [byteLength]
    have hc : 0 < c.utf8Size := c.utf8Size_pos
    obtain ⟨n, hn⟩ : ∃ n, byteLength (c :: s) = n + 1 := ⟨byteLength (c :: s) - 1, by omega⟩
    have hs : n + 1 - c.utf8Size = byteLength s := by omega
    rw [hn, List.cons_append, takeBytes?, if_pos (by omega), hs, ih, Option.map_some]

end Text
end SimReport
