/-
Where a path to a file ends.

A walk only moves on from a directory, and only up to places through which it
could have come down.  So the places above it are directories all along, and a
walk that does not go into a name at its end has ended in a directory.  A path
that leads to a file therefore ends in a name (`fileName?_of_status_file`).
-/
import SimReport.FileSystem.Operations
import SimReport.Proofs.FileSystem.Walk
import SimReport.Proofs.Path

namespace SimReport

namespace Hop

/-- The hops do not go into a name at their end. -/
def StaysOut (hops : List Hop) : Prop := ∀ name, hops.getLast? ≠ some (.into name)

theorem StaysOut.of_cons {hop : Hop} {rest : List Hop} (h : StaysOut (hop :: rest)) :
    StaysOut rest := by
  intro name hlast
  exact h name (by rw [List.getLast?_cons, hlast, Option.getD_some])

theorem StaysOut.ne_nil_of_into {name : Name} {rest : List Hop}
    (h : StaysOut (.into name :: rest)) : rest ≠ [] := by
  rintro rfl
  exact h name rfl

theorem StaysOut.append {rest : List Hop} (h : StaysOut rest) (hr : rest ≠ [])
    (hops : List Hop) : StaysOut (hops ++ rest) := by
  intro name hlast
  rw [List.getLast?_append] at hlast
  cases he : rest.getLast? with
  | none => exact hr (List.getLast?_eq_none_iff.mp he)
  | some hop =>
    rw [he, Option.some_or] at hlast
    exact h name (he.trans hlast)

end Hop

namespace FileSystem

variable {fs : FileSystem}

/-- The place and all places above it are directories, as they are for every
place in which a program can be at work. -/
def Enterable (fs : FileSystem) (loc : Location) : Prop :=
  ∀ place, place <:+ loc → fs.get? place = some .directory

theorem enterable_root (fs : FileSystem) : fs.Enterable [] := fun place h => by
  rw [List.suffix_nil.mp h, get?_root]

theorem Enterable.tail {loc : Location} (h : fs.Enterable loc) : fs.Enterable loc.tail :=
  fun place hp => h place (hp.trans (List.tail_suffix loc))

theorem Enterable.here {loc : Location} (h : fs.Enterable loc) : fs.get? loc = some .directory :=
  h loc (List.suffix_refl loc)

theorem Enterable.of_tail {loc : Location} (habove : fs.Enterable loc.tail)
    (h : fs.get? loc = some .directory) : fs.Enterable loc := by
  intro place hp
  cases loc with
  | nil => exact enterable_root fs place hp
  | cons name above =>
    rcases List.suffix_cons_iff.mp hp with rfl | hp
    · exact h
    · exact habove place hp

theorem enterable_origin {loc : Location} (h : fs.Enterable loc) (p : Path) :
    fs.Enterable (origin p loc) := by
  rw [origin]
  split
  · exact enterable_root fs
  · exact h

/-- A walk that does not go into a name at its end has ended in a directory. -/
theorem Walked.directory {links : Nat} {loc : Location} {hops : List Hop} {place : Place}
    (h : fs.Walked links loc hops place) {stop : Location} (hplace : place = .present stop)
    (habove : fs.Enterable loc.tail) (hloc : hops = [] → fs.get? loc = some .directory)
    (hout : Hop.StaysOut hops) : fs.get? stop = some .directory := by
  induction h with
  | stop links loc =>
    cases hplace
    exact hloc rfl
  | @turn links loc next hop rest place hpass hturn _ ih =>
    have hhere : fs.Enterable loc := habove.of_tail (directory_of_passage hpass)
    have hnext : fs.Enterable next := by
      cases hop <;> cases hturn
      · exact hhere
      · exact hhere.tail
      · exact hhere
    exact ih hplace hnext.tail (fun _ => hnext.here) hout.of_cons
  | free => cases hplace
  | @link links loc name target rest place hpass _ _ _ ih =>
    have hhere : fs.Enterable loc := habove.of_tail (directory_of_passage hpass)
    refine ih hplace (enterable_origin hhere target).tail (fun e => ?_)
      (hout.of_cons.append hout.ne_nil_of_into target.hops)
    exact absurd (List.append_eq_nil_iff.mp e).2 hout.ne_nil_of_into
  | @entry links loc name entry rest place hpass _ _ _ _ ih =>
    have hhere : fs.Enterable (name :: loc).tail := habove.of_tail (directory_of_passage hpass)
    exact ih hplace hhere (fun e => absurd e hout.ne_nil_of_into) hout.of_cons

/-- A path that leads to something else than a directory has a last name. -/
theorem fileName?_of_locate (hdir : fs.Enterable fs.workingDirectory) {p : Path} {loc : Location}
    (h : fs.locate .look p = .ok (.present loc)) (hget : fs.get? loc ≠ some .directory) :
    ∃ name, p.fileName? = some name := by
  obtain ⟨hcheck, hwalked⟩ := walkFrom_eq_ok h
  have hzero : 0 ∉ p := by
    intro h0
    rw [checkPath, if_pos (List.contains_iff_mem.mpr h0)] at hcheck
    cases hcheck
  have horigin := enterable_origin hdir p
  refine Classical.byContradiction fun hnone => hget ?_
  have hout : Hop.StaysOut p.hops := fun name hlast =>
    hnone ⟨name.bytes, Path.fileName?_of_hops hzero hlast⟩
  exact hwalked.directory rfl horigin.tail (fun _ => horigin.here) hout

theorem status_eq_ok {p : Path} {entry : Entry} (h : fs.status p = .ok entry) :
    ∃ loc, fs.locate .look p = .ok (.present loc) ∧ fs.get? loc = some entry := by
  rw [status] at h
  split at h
  · cases h
  · cases h
  · next loc hloc =>
    refine ⟨loc, hloc, ?_⟩
    split at h
    · next found hfound =>
      cases h
      exact hfound
    · cases h

theorem fileName?_of_isFile (hdir : fs.Enterable fs.workingDirectory) {p : Path}
    (h : fs.isFile p = true) : ∃ name, p.fileName? = some name := by
  rw [isFile] at h
  split at h
  · next id hstatus =>
    obtain ⟨loc, hloc, hget⟩ := status_eq_ok hstatus
    exact fileName?_of_locate hdir hloc (by simp [hget])
  · cases h

end FileSystem
end SimReport
