/-
A file system whose entries come in another order.

The order of the entries is the order in which directories list them, and nothing
else.  A walk looks entries up by their place, so every path leads to what it led
to before (`Reordered.status_eq`), and a directory that is told to its end tells the
same names.
-/
import Mathlib.Data.List.Nodup
import SimReport.FileSystem.Operations
import SimReport.Proofs.Keyed

namespace SimReport
namespace FileSystem

/-- The entries of `other` are those of `fs` in an order of their own. -/
structure Reordered (fs other : FileSystem) : Prop where
  entries : other.entries.Perm fs.entries
  file : other.file = fs.file
  refusal? : other.refusal? = fs.refusal?
  workingDirectory : other.workingDirectory = fs.workingDirectory

/-- The entries from the last to the first. -/
def reversed (fs : FileSystem) : FileSystem :=
  { fs with
    entries := fs.entries.reverse
    distinct := List.map_reverse ▸ List.nodup_reverse.mpr fs.distinct }

theorem reordered_reversed (fs : FileSystem) : fs.Reordered fs.reversed where
  entries := List.reverse_perm fs.entries
  file := rfl
  refusal? := rfl
  workingDirectory := rfl

variable {fs other : FileSystem}

theorem permit_congr (h : other.refusal? = fs.refusal?) : other.permit = fs.permit := by
  funext request
  rw [permit, permit, h]

theorem passage_congr (hget : other.get? = fs.get?) (hrefusal : other.refusal? = fs.refusal?) :
    other.passage = fs.passage := by
  funext loc hop
  rw [passage, passage, hget, permit_congr hrefusal]

theorem walkWith_congr (hget : other.get? = fs.get?) (hpassage : other.passage = fs.passage)
    (purpose : Purpose) (follow : Location → Path → List Hop → Except IoError Place)
    (loc : Location) (hops : List Hop) :
    other.walkWith purpose follow loc hops = fs.walkWith purpose follow loc hops := by
  induction hops generalizing loc with
  | nil => rfl
  | cons hop rest ih =>
    cases hop <;> simp only [walkWith, hget, hpassage, ih]

theorem walk_congr (hget : other.get? = fs.get?) (hpassage : other.passage = fs.passage)
    (purpose : Purpose) (links : Nat) : other.walk purpose links = fs.walk purpose links := by
  induction links with
  | zero => exact funext₂ fun loc hops => walkWith_congr hget hpassage purpose _ loc hops
  | succ links ih =>
    rw [walk, walk, ih]
    exact funext₂ fun loc hops => walkWith_congr hget hpassage purpose _ loc hops

/-- A listing comes to its end if nothing of it is refused, and then it has all names. -/
theorem tell_eq_iff {directory : Location} {told : Nat} {names listed : List Name} :
    fs.tell directory told names = ⟨listed, none⟩ ↔
      listed = names ∧ ∀ i ≤ names.length, fs.permit (.next directory (told + i)) = .ok () := by
  induction names generalizing told listed with
  | nil =>
    rw [tell]
    constructor
    · intro h
      split at h
      · cases h
      · next hpermit =>
        cases h
        refine ⟨rfl, fun i hi => ?_⟩
        rw [Nat.le_zero.mp hi]
        exact hpermit
    · rintro ⟨rfl, hpermits⟩
      rw [show fs.permit (.next directory told) = .ok () from hpermits 0 (Nat.le_refl 0)]
  | cons name names ih =>
    rw [tell]
    constructor
    · intro h
      split at h
      · cases h
      · next hpermit =>
        obtain ⟨rest, hrest⟩ : ∃ rest, fs.tell directory (told + 1) names = ⟨rest, none⟩ :=
          ⟨_, congrArg (Listing.mk _) (congrArg Listing.fault? h)⟩
        obtain ⟨rfl, hpermits⟩ := ih.mp hrest
        rw [hrest] at h
        cases h
        refine ⟨rfl, fun i hi => ?_⟩
        cases i with
        | zero => exact hpermit
        | succ i =>
          rw [Nat.add_comm i 1, ← Nat.add_assoc]
          exact hpermits i (Nat.le_of_succ_le_succ hi)
    · rintro ⟨rfl, hpermits⟩
      have hrest : fs.tell directory (told + 1) names = ⟨names, none⟩ := by
        refine ih.mpr ⟨rfl, fun i hi => ?_⟩
        have hpermit := hpermits (i + 1) (Nat.succ_le_succ hi)
        rwa [Nat.add_assoc, Nat.add_comm 1 i]
      rw [show fs.permit (.next directory told) = .ok () from hpermits 0 (Nat.zero_le _)]
      dsimp only
      rw [hrest]

namespace Reordered

theorem get?_eq (h : fs.Reordered other) : other.get? = fs.get? := by
  funext loc
  rw [get?, get?, Keyed.find?_perm h.entries other.distinct loc]

theorem passage_eq (h : fs.Reordered other) : other.passage = fs.passage :=
  passage_congr h.get?_eq h.refusal?

theorem locate_eq (h : fs.Reordered other) (purpose : Purpose) (p : Path) :
    other.locate purpose p = fs.locate purpose p := by
  rw [locate, locate, walkFrom, walkFrom, walk_congr h.get?_eq h.passage_eq, h.workingDirectory]

theorem status_eq (h : fs.Reordered other) (p : Path) : other.status p = fs.status p := by
  rw [status, status, h.locate_eq, h.get?_eq]

theorem read_eq (h : fs.Reordered other) (p : Path) : other.read p = fs.read p := by
  have hcontent : other.contentOf = fs.contentOf := by
    funext entry
    cases entry <;> simp only [contentOf, h.file]
  rw [FileSystem.read, FileSystem.read, h.locate_eq, h.get?_eq, permit_congr h.refusal?, hcontent]

theorem namesIn_perm (h : fs.Reordered other) (directory : Location) :
    (other.namesIn directory).Perm (fs.namesIn directory) :=
  h.entries.filterMap _

theorem list_eq_ok (h : fs.Reordered other) {p : Path} {names : List Name}
    (hlist : fs.list p = .ok ⟨names, none⟩) :
    ∃ listed, other.list p = .ok ⟨listed, none⟩ ∧ listed.Perm names := by
  rw [list] at hlist
  split at hlist
  · cases hlist
  · cases hlist
  · next loc hplace =>
    split at hlist
    · cases hlist
    · next hdir =>
      split at hlist
      · cases hlist
      · next hpermit =>
        obtain ⟨rfl, hnext⟩ := tell_eq_iff.mp (Except.ok.inj hlist)
        refine ⟨other.namesIn loc, ?_, h.namesIn_perm loc⟩
        have htell : other.tell loc 0 (other.namesIn loc) = ⟨other.namesIn loc, none⟩ := by
          refine tell_eq_iff.mpr ⟨rfl, fun i hi => ?_⟩
          rw [permit_congr h.refusal?]
          exact hnext i ((h.namesIn_perm loc).length_eq ▸ hi)
        rw [list, h.locate_eq, hplace]
        dsimp only
        rw [h.get?_eq, if_neg hdir, permit_congr h.refusal?, hpermit, htell]

end Reordered

end FileSystem
end SimReport
