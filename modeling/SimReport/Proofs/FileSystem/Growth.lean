/-
File systems that grow.

Of an entry a walk only sees what it is, and not what a file holds.  So a place that
a path has reached is reached again after entries were added at free places and
contents were replaced (`Leads.grow`).  What is refused stays refused.
-/
import SimReport.FileSystem.Operations
import SimReport.Proofs.FileSystem.Walk
import SimReport.Proofs.Keyed

namespace SimReport

def Place.location : Place → Location
  | .present loc => loc
  | .vacant loc => loc

namespace FileSystem

variable {fs grown : FileSystem}

theorem ne_nil_of_get? {loc : Location} {found : Option Entry} (h : fs.get? loc = found)
    (hfound : found ≠ some .directory) : loc ≠ [] := by
  rintro rfl
  exact hfound (h.symm.trans (get?_root fs))

theorem get?_put_self (fs : FileSystem) {loc : Location} (h : loc ≠ []) (entry : Entry) :
    (fs.put loc entry).get? loc = some entry := by
  rw [get?_put fs h, if_pos rfl]

/-- Every entry still stands where it stood, though the content of a file may be another. -/
structure Grows (fs grown : FileSystem) : Prop where
  workingDirectory : grown.workingDirectory = fs.workingDirectory
  refusal? : grown.refusal? = fs.refusal?
  get? {loc : Location} {entry : Entry} : fs.get? loc = some entry → grown.get? loc = some entry

namespace Grows

variable {loc : Location}

theorem refl (fs : FileSystem) : Grows fs fs where
  workingDirectory := rfl
  refusal? := rfl
  get? h := h

theorem trans {between : FileSystem} (h : Grows fs between) (h' : Grows between grown) :
    Grows fs grown where
  workingDirectory := h'.workingDirectory.trans h.workingDirectory
  refusal? := h'.refusal?.trans h.refusal?
  get? hl := h'.get? (h.get? hl)

theorem free (h : Grows fs grown) (hl : grown.get? loc = none) : fs.get? loc = none := by
  refine Decidable.byContradiction fun hne => ?_
  obtain ⟨entry, he⟩ := Option.ne_none_iff_exists'.mp hne
  have := h.get? he
  rw [hl] at this
  cases this

theorem permit (h : Grows fs grown) (request : Request) :
    grown.permit request = fs.permit request := by
  rw [FileSystem.permit, FileSystem.permit, h.refusal?]

theorem passage (h : Grows fs grown) {hop : Hop} (hpass : fs.passage loc hop = .ok ()) :
    grown.passage loc hop = .ok () := by
  have hdir := directory_of_passage hpass
  rw [FileSystem.passage, if_neg (not_not_intro hdir)] at hpass
  rw [FileSystem.passage, if_neg (not_not_intro (h.get? hdir)), h.permit]
  exact hpass

theorem tell (h : Grows fs grown) (directory : Location) (told : Nat) (names : List Name) :
    grown.tell directory told names = fs.tell directory told names := by
  induction names generalizing told with
  | nil => rw [FileSystem.tell, FileSystem.tell, h.permit]
  | cons name names ih => rw [FileSystem.tell, FileSystem.tell, h.permit, ih]

theorem put_of_free (h : fs.get? loc = none) (entry : Entry) : Grows fs (fs.put loc entry) where
  workingDirectory := rfl
  refusal? := rfl
  get? {l old} hl := by
    have hne : l ≠ loc := by
      rintro rfl
      rw [h] at hl
      cases hl
    rw [get?_put fs (ne_nil_of_get? h (by simp)), if_neg hne, hl]

theorem setContent (fs : FileSystem) (id : Nat) (content : Bytes) :
    Grows fs (fs.setContent id content) where
  workingDirectory := rfl
  refusal? := rfl
  get? h := h

end Grows

/-- A walk that has come to an end comes to the same end in a file system that
has grown.  A name that was free must have got an entry for that, and no link. -/
theorem Walked.grow {links : Nat} {loc : Location} {hops : List Hop} {place : Place}
    (h : fs.Walked links loc hops place) (hg : Grows fs grown)
    (hvacant : ∀ free, place = .vacant free →
      ∃ entry, grown.get? free = some entry ∧ ¬ entry.IsLink) :
    grown.Walked links loc hops (.present place.location) := by
  induction h with
  | stop links loc => exact .stop links loc
  | turn hpass hturn _ ih => exact .turn (hg.passage hpass) hturn (ih hvacant)
  | @free links loc name hpass hname _ =>
    obtain ⟨entry, hentry, hnot⟩ := hvacant (name :: loc) rfl
    exact .entry (hg.passage hpass) hname hentry hnot (.stop links _)
  | link hpass hname hlink _ ih =>
    exact .link (hg.passage hpass) hname (hg.get? hlink) (ih hvacant)
  | entry hpass hname hentry hnot _ ih =>
    exact .entry (hg.passage hpass) hname (hg.get? hentry) hnot (ih hvacant)

/-! ## Where paths lead -/

/-- The path leads to an entry, which stands at the place. -/
def Leads (fs : FileSystem) (p : Path) (loc : Location) : Prop :=
  fs.locate .look p = .ok (.present loc)

theorem leads_of_locate {purpose : Purpose} {p : Path} {place : Place}
    (h : fs.locate purpose p = .ok place) (hg : Grows fs grown)
    (hvacant : ∀ free, place = .vacant free →
      ∃ entry, grown.get? free = some entry ∧ ¬ entry.IsLink) :
    grown.Leads p place.location := by
  obtain ⟨hcheck, hwalked⟩ := walkFrom_eq_ok h
  rw [← hg.workingDirectory] at hwalked
  exact walkFrom_of_walked hcheck (hwalked.grow hg hvacant)

theorem Leads.grow {p : Path} {loc : Location} (h : fs.Leads p loc) (hg : Grows fs grown) :
    grown.Leads p loc :=
  leads_of_locate h hg fun _ he => by cases he

theorem Leads.status {p : Path} {loc : Location} {entry : Entry} (h : fs.Leads p loc)
    (he : fs.get? loc = some entry) : fs.status p = .ok entry := by
  rw [FileSystem.status, h]
  dsimp only
  rw [he]

theorem Leads.list {p : Path} {loc : Location} (h : fs.Leads p loc)
    (hdir : fs.get? loc = some .directory) :
    fs.list p = (fs.permit (.list loc)).map fun _ => fs.tell loc 0 (fs.namesIn loc) := by
  rw [FileSystem.list, h]
  dsimp only
  rw [if_neg (not_not_intro hdir)]
  cases fs.permit (.list loc) <;> rfl

theorem Leads.isDirectory {p : Path} {loc : Location} (h : fs.Leads p loc)
    (hdir : fs.get? loc = some .directory) : fs.isDirectory p = true := by
  rw [FileSystem.isDirectory, h.status hdir]

end FileSystem
end SimReport
