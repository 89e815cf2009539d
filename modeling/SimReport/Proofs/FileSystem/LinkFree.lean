/-
File systems without links.

There a name in a directory leads to the entry of that name and nowhere else, so
how paths below a directory are read is decided by the entries below it.  Putting
an entry at one place changes nothing at any other, and no listing but the one of
the directory that holds it (`alters_put`).  Only a file that stands there is found
with another content elsewhere, if it has a name there.
-/
import SimReport.Proofs.FileSystem.Descent

namespace SimReport

namespace FileSystem

variable {fs other : FileSystem} {p : Path} {base : Location} {name : Name}

/-- An entry that is put elsewhere does not change a listing. -/
theorem namesIn_put (fs : FileSystem) {loc directory : Location} (h : loc.tail ≠ directory)
    (entry : Entry) : (fs.put loc entry).namesIn directory = fs.namesIn directory := by
  apply Keyed.filterMap_store
  rintro ⟨l, e⟩ hl
  dsimp only at hl ⊢
  subst hl
  cases l with
  | nil => rfl
  | cons name parent => exact if_neg h

def LinkFree (fs : FileSystem) : Prop := ∀ loc target, fs.get? loc ≠ some (.link target)

theorem linkFree_of_entries (h : ∀ e ∈ fs.entries, ¬ e.2.IsLink) : fs.LinkFree := by
  intro loc target hget
  rw [get?] at hget
  split at hget
  · cases hget
  · obtain ⟨e, hfound, he⟩ := Option.map_eq_some_iff.mp hget
    exact h e (List.mem_of_find?_eq_some hfound) ⟨target, he⟩

theorem LinkFree.put (h : fs.LinkFree) {loc : Location} (hloc : loc ≠ []) {entry : Entry}
    (hentry : ∀ target, entry ≠ .link target) : (fs.put loc entry).LinkFree := by
  intro l target hget
  rw [get?_put fs hloc] at hget
  split at hget
  · exact hentry target (Option.some.inj hget)
  · exact h l target hget

/-- The second file system has grown out of the first at one place, and got no link there. -/
structure Alters (fs other : FileSystem) (loc : Location) : Prop where
  grows : Grows fs other
  linkFree : fs.LinkFree → other.LinkFree
  elsewhere (l : Location) : l ≠ loc → other.get? l = fs.get? l
  namesIn (directory : Location) : directory ≠ loc.tail →
    other.namesIn directory = fs.namesIn directory
  file (id : Nat) : other.get? loc ≠ some (.file id) → other.file id = fs.file id

theorem alters_self (fs : FileSystem) (loc : Location) : fs.Alters fs loc where
  grows := Grows.refl fs
  linkFree := id
  elsewhere _ _ := rfl
  namesIn _ _ := rfl
  file _ _ := rfl

theorem alters_put {loc : Location} {entry : Entry} (hfree : fs.get? loc = none)
    (hentry : ∀ target, entry ≠ .link target) : fs.Alters (fs.put loc entry) loc where
  grows := Grows.put_of_free hfree entry
  linkFree h := h.put (ne_nil_of_get? hfree (by simp)) hentry
  elsewhere l hl := by rw [get?_put fs (ne_nil_of_get? hfree (by simp)), if_neg hl]
  namesIn directory hd := fs.namesIn_put (Ne.symm hd) entry
  file _ _ := rfl

theorem Alters.setContent {loc : Location} {id : Nat} (h : fs.Alters other loc)
    (hid : other.get? loc = some (.file id)) (content : Bytes) :
    fs.Alters (other.setContent id content) loc where
  grows := h.grows.trans (Grows.setContent other id content)
  linkFree := h.linkFree
  elsewhere := h.elsewhere
  namesIn := h.namesIn
  file i hi := by
    have hne : i ≠ id := by
      rintro rfl
      exact hi hid
    rw [file_setContent, if_neg hne]
    exact h.file i hi

section

variable (h : fs.Stands p base) (hother : other.Stands p base)
  (hrefusal : other.refusal? = fs.refusal?)
  (hlink : ∀ target, fs.get? (name :: base) ≠ some (.link target))
  (hsame : other.get? (name :: base) = fs.get? (name :: base))

include h hother hrefusal hlink hsame

theorem Stands.locate_join_congr :
    other.locate .look (p.join name.bytes) = fs.locate .look (p.join name.bytes) := by
  have hpass : other.passage base (.into name) = fs.passage base (.into name) := by
    rw [passage, passage, hother.directory, h.directory, permit, permit, hrefusal]
  rw [h.locate_join name .look hlink, hother.locate_join name .look (hsame ▸ hlink), intoName,
    intoName, hpass, hsame]

/-- A name looks the same in two file systems that have the same entry there. -/
theorem Stands.status_join :
    other.status (p.join name.bytes) = fs.status (p.join name.bytes) := by
  rw [status, status, h.locate_join_congr hother hrefusal hlink hsame]
  cases hlocate : fs.locate .look (p.join name.bytes) with
  | error e => rfl
  | ok place =>
    cases place with
    | vacant loc => rfl
    | present loc =>
      obtain rfl := h.eq_of_leads_join hlink hlocate
      dsimp only
      rw [hsame]

/-- A name is read alike in two file systems that have the same entry there, and the same content
in it. -/
theorem Stands.read_join
    (hcontent : ∀ id, fs.status (p.join name.bytes) = .ok (.file id) →
      other.file id = fs.file id) :
    other.read (p.join name.bytes) = fs.read (p.join name.bytes) := by
  rw [read, read, h.locate_join_congr hother hrefusal hlink hsame]
  cases hlocate : fs.locate .look (p.join name.bytes) with
  | error e => rfl
  | ok place =>
    cases place with
    | vacant loc => rfl
    | present loc =>
      obtain rfl := h.eq_of_leads_join hlink hlocate
      have hpermit : other.permit (.read (name :: base)) = fs.permit (.read (name :: base)) := by
        rw [permit, permit, hrefusal]
      dsimp only
      rw [hsame, hpermit]
      cases hget : fs.get? (name :: base) with
      | none => rfl
      | some entry =>
        cases fs.permit (.read (name :: base)) with
        | error e => rfl
        | ok _ =>
          cases entry with
          | file id =>
            have hsame := hcontent id (Leads.status hlocate hget)
            exact congrArg (fun file => Except.ok (File.content file)) hsame
          | device d => cases d <;> rfl
          | _ => rfl

end

end FileSystem

end SimReport
