/-
What creating directories and files changes.

Creating a directory with those above it puts directories at places that were
free, and to which the paths lead from then on (`makeDirectories_creates`).  This
holds however far the creation got before it failed.  Whatever is written to a file
that was opened, it is all that the file holds, and nothing but the file is changed
(`overwrites_of_openEmpty`).  What does not fit into the file is lost, and the rest
stays in it (`append_setStored_of_not_fits`).
-/
import Mathlib.Data.List.Induction
import SimReport.Proofs.FileSystem.Growth
import SimReport.Proofs.Path

namespace SimReport

/-- The device lets these bytes be written, though it keeps none of them. -/
def Device.Takes : Device → Bytes → Prop
  | full, bytes => bytes = []
  | null, _ => True

namespace FileSystem

variable {fs grown : FileSystem}

/-! ## Directories -/

/-- Directories put at the places, one after another. -/
def putDirectories (fs : FileSystem) (places : List Location) : FileSystem :=
  places.foldl (fun fs loc => fs.put loc .directory) fs

/-- Once directories are put at the places, which were free before, the paths
lead to them. -/
def Creates (fs : FileSystem) (paths : List Path) (places : List Location) : Prop :=
  ∀ loc ∈ places, fs.get? loc = none ∧ ∃ p ∈ paths, (fs.putDirectories places).Leads p loc

theorem putDirectories_concat (fs : FileSystem) (places : List Location) (loc : Location) :
    fs.putDirectories (places ++ [loc]) = (fs.putDirectories places).put loc .directory := by
  rw [putDirectories, List.foldl_append]
  rfl

theorem get?_putDirectories (fs : FileSystem) {places : List Location}
    (h : ∀ loc ∈ places, fs.get? loc = none) (l : Location) :
    (fs.putDirectories places).get? l = if l ∈ places then some .directory else fs.get? l := by
  induction places using List.reverseRecOn with
  | nil => rw [if_neg List.not_mem_nil]; rfl
  | append_singleton places loc ih =>
    have hlast : fs.get? loc = none := h loc (List.mem_append_right _ List.mem_cons_self)
    rw [putDirectories_concat, get?_put _ (ne_nil_of_get? hlast (by simp)),
      ih fun loc hl => h loc (List.mem_append_left _ hl)]
    by_cases hl : l = loc
    · rw [if_pos hl, if_pos (List.mem_append_right _ (List.mem_singleton.mpr hl))]
    · simp only [hl, if_false, List.mem_append, List.mem_singleton, or_false]

theorem putDirectories_fields (fs : FileSystem) (places : List Location) :
    (fs.putDirectories places).file = fs.file ∧
      (fs.putDirectories places).refusal? = fs.refusal? ∧
      (fs.putDirectories places).workingDirectory = fs.workingDirectory := by
  induction places using List.reverseRecOn with
  | nil => exact ⟨rfl, rfl, rfl⟩
  | append_singleton places loc ih => rw [putDirectories_concat]; exact ih

theorem Creates.grows {paths : List Path} {places : List Location} (h : fs.Creates paths places) :
    Grows fs (fs.putDirectories places) where
  workingDirectory := (fs.putDirectories_fields places).2.2
  refusal? := (fs.putDirectories_fields places).2.1
  get? {l entry} hl := by
    have hout : l ∉ places := by
      intro hmem
      rw [(h l hmem).1] at hl
      cases hl
    rw [get?_putDirectories fs fun loc hmem => (h loc hmem).1, if_neg hout, hl]

theorem creates_nil (fs : FileSystem) (paths : List Path) : fs.Creates paths [] :=
  fun _ h => absurd h List.not_mem_nil

theorem Creates.above {paths : List Path} {places : List Location} (h : fs.Creates paths places)
    (p : Path) : fs.Creates (p :: paths) places := by
  intro loc hl
  obtain ⟨hfree, q, hq, hleads⟩ := h loc hl
  exact ⟨hfree, q, List.mem_cons_of_mem p hq, hleads⟩

theorem Creates.concat {paths : List Path} {places : List Location} (h : fs.Creates paths places)
    {p : Path} {loc : Location} (hfree : (fs.putDirectories places).get? loc = none)
    (hleads : ((fs.putDirectories places).put loc .directory).Leads p loc) :
    fs.Creates (p :: paths) (places ++ [loc]) := by
  intro l hl
  rw [putDirectories_concat]
  rcases List.mem_append.mp hl with hl | hl
  · obtain ⟨hl, q, hq, hlq⟩ := h l hl
    exact ⟨hl, q, List.mem_cons_of_mem p hq, hlq.grow (Grows.put_of_free hfree _)⟩
  · rw [List.mem_singleton.mp hl]
    exact ⟨h.grows.free hfree, p, List.mem_cons_self, hleads⟩

theorem slot?_eq_some {p : Path} {loc : Location} (h : fs.slot? p = .ok (some loc)) :
    ∃ name above, loc = name :: above ∧
      (p.hops.filter (· ≠ .close)).getLast? = some (.into name) ∧
      fs.walkFrom .look p (p.hops.filter (· ≠ .close)).dropLast = .ok (.present above) ∧
      fs.passage above (.into name) = .ok () ∧ name.bytes.length ≤ maxNameLength := by
  simp only [slot?] at h
  split at h
  · next name hlast =>
    split at h
    · cases h
    · cases h
    · next above habove =>
      split at h
      · cases h
      · next hpass =>
        split at h
        · cases h
        · next hlen =>
          cases h
          exact ⟨name, above, rfl, hlast, habove, hpass, Nat.not_lt.mp hlen⟩
  · split at h <;> cases h

/-- Once the slot of a path holds a directory, the path leads there. -/
theorem leads_of_slot? {p : Path} {loc : Location} (h : fs.slot? p = .ok (some loc))
    (hg : Grows fs grown) (hloc : grown.get? loc = some .directory) : grown.Leads p loc := by
  obtain ⟨name, above, rfl, hlast, habove, hpass, hlen⟩ := slot?_eq_some h
  obtain ⟨closes, hhops, hcloses⟩ := p.hops_eq
  obtain ⟨before, hbefore⟩ := List.getLast?_eq_some_iff.mp hlast
  rw [hbefore, List.dropLast_concat] at habove
  obtain ⟨hcheck, hwalked⟩ := walkFrom_eq_ok habove
  rw [← hg.workingDirectory] at hwalked
  obtain ⟨left, hleft⟩ := (hwalked.grow hg fun _ he => by cases he).append rfl
  have hend : grown.Walked left above (.into name :: closes) (.present (name :: above)) :=
    .entry (hg.passage hpass) hlen hloc Entry.not_isLink_directory (.closes hloc hcloses)
  rw [Leads, locate, hhops, hbefore, List.append_assoc]
  exact walkFrom_of_walked hcheck (hleft _ _ hend)

/-- A directory is made at a free place, and its path leads there afterwards. -/
theorem makeDirectory_eq_ok {p : Path} {made : FileSystem} (h : fs.makeDirectory p = .ok made) :
    ∃ loc, fs.get? loc = none ∧ made = fs.put loc .directory ∧ made.Leads p loc := by
  rw [makeDirectory, add] at h
  split at h
  · cases h
  · cases h
  · next loc hslot =>
    split at h
    · cases h
    · cases h
    · next hfree _ =>
      cases h
      have hhere := get?_put_self fs (ne_nil_of_get? hfree (by simp)) .directory
      exact ⟨loc, hfree, rfl, leads_of_slot? hslot (Grows.put_of_free hfree _) hhere⟩

theorem makeAncestors_creates (fs : FileSystem) (paths : List Path) :
    ∃ places, fs.Creates paths places ∧ (fs.makeAncestors paths).1 = fs.putDirectories places := by
  induction paths with
  | nil => exact ⟨[], creates_nil fs [], rfl⟩
  | cons p above ih =>
    obtain ⟨places, hcreates, hbelow⟩ := ih
    rw [makeAncestors]
    split
    · next made hmade =>
      obtain ⟨loc, hfree, rfl, hleads⟩ := makeDirectory_eq_ok hmade
      refine ⟨[] ++ [loc], ?_, rfl⟩
      exact (creates_nil fs above).concat hfree hleads
    · split
      · next below e heq =>
        rw [heq] at hbelow
        exact ⟨places, hcreates.above p, hbelow⟩
      · next below heq =>
        rw [heq] at hbelow
        dsimp only at hbelow
        subst hbelow
        split
        · next made hmade =>
          obtain ⟨loc, hfree, rfl, hleads⟩ := makeDirectory_eq_ok hmade
          exact ⟨places ++ [loc], hcreates.concat hfree hleads, (putDirectories_concat ..).symm⟩
        · exact ⟨places, hcreates.above p, rfl⟩
    · exact ⟨[], creates_nil fs _, rfl⟩

/-- Whether it succeeds or not, creating a directory changes nothing but free
places to which it, or a path above it, leads. -/
theorem makeDirectories_creates (fs : FileSystem) (p : Path) :
    ∃ places, fs.Creates p.ancestors places ∧
      (fs.makeDirectories p).1 = fs.putDirectories places := by
  rw [makeDirectories]
  split
  · exact ⟨[], creates_nil fs _, rfl⟩
  · exact makeAncestors_creates fs p.ancestors

/-! ## Files -/

/-- What becomes of the files when the path is opened for writing and `content` is all that
gets into what it leads to.  A device keeps nothing. -/
inductive Overwrites (fs : FileSystem) (p : Path) (content : Bytes) : FileSystem → Prop
  | replaced {loc : Location} {id : Nat} : fs.Leads p loc → fs.get? loc = some (.file id) →
      Overwrites fs p content (fs.setContent id content)
  | created {loc : Location} : fs.get? loc = none →
      ((fs.put loc (.file fs.freshId)).setContent fs.freshId content).Leads p loc →
      Overwrites fs p content ((fs.put loc (.file fs.freshId)).setContent fs.freshId content)
  | device {loc : Location} {d : Device} : fs.Leads p loc → fs.get? loc = some (.device d) →
      d.Takes content → Overwrites fs p content fs

/-- The path leads to a file with this content, or to a device that let it be written. -/
def Took (fs : FileSystem) (p : Path) (content : Bytes) : Prop :=
  ∃ loc, fs.Leads p loc ∧
    ((∃ id, fs.get? loc = some (.file id) ∧ (fs.file id).content = content) ∨
      ∃ d, fs.get? loc = some (.device d) ∧ d.Takes content)

theorem Overwrites.grows {p : Path} {content : Bytes} (h : fs.Overwrites p content grown) :
    Grows fs grown := by
  cases h with
  | replaced => exact Grows.setContent fs _ content
  | created hfree => exact (Grows.put_of_free hfree _).trans (Grows.setContent _ _ content)
  | device => exact Grows.refl fs

theorem Overwrites.took {p : Path} {content : Bytes} (h : fs.Overwrites p content grown) :
    grown.Took p content := by
  have hgrows := h.grows
  cases h with
  | @replaced loc id hleads hfile =>
    exact ⟨loc, hleads.grow hgrows, Or.inl ⟨id, hfile, by rw [file_setContent, if_pos rfl]⟩⟩
  | @created loc hfree hleads =>
    refine ⟨loc, hleads, Or.inl ⟨fs.freshId, ?_, by rw [file_setContent, if_pos rfl]⟩⟩
    exact fs.get?_put_self (ne_nil_of_get? hfree (by simp)) _
  | device hleads hdevice htakes => exact ⟨_, hleads, Or.inr ⟨_, hdevice, htakes⟩⟩

/-- All other files stay as they are, for the number of a new one is that of none of them. -/
theorem Overwrites.file_of_ne {p : Path} {content : Bytes} (h : fs.Overwrites p content grown)
    {loc : Location} {id : Nat} (hid : fs.get? loc = some (.file id))
    (hother : fs.status p ≠ .ok (.file id)) : grown.file id = fs.file id := by
  cases h with
  | @replaced there other hleads hthere =>
    have hne : id ≠ other := fun e => hother (e ▸ hleads.status hthere)
    rw [file_setContent, if_neg hne]
  | created =>
    have hne : id ≠ fs.freshId := Nat.ne_of_lt (id_lt_freshId hid)
    rw [file_setContent, if_neg hne, file_put]
  | device => rfl

/-- What is read from a file that took a content, if it may be read. -/
theorem Took.read {p : Path} {content : Bytes} (h : fs.Took p content)
    (hfile : fs.isFile p = true) {found : Bytes} (hread : fs.read p = .ok found) :
    found = content := by
  obtain ⟨loc, hleads, ⟨id, hid, rfl⟩ | ⟨d, hdevice, -⟩⟩ := h
  · rw [FileSystem.read, hleads] at hread
    dsimp only at hread
    rw [hid] at hread
    cases hpermit : fs.permit (.read loc) with
    | error e =>
      rw [hpermit] at hread
      cases hread
    | ok _ =>
      rw [hpermit] at hread
      cases hread
      rfl
  · rw [isFile, hleads.status hdevice] at hfile
    cases hfile

theorem openEmpty_eq_ok {p : Path} {opened : FileSystem} {handle : Handle}
    (h : fs.openEmpty p = .ok (opened, handle)) :
    (∃ loc id, fs.Leads p loc ∧ fs.get? loc = some (.file id) ∧ handle = .file id ∧
        opened = fs.setContent id []) ∨
      (∃ loc, fs.locate .create p = .ok (.vacant loc) ∧ handle = .file fs.freshId ∧
        opened = (fs.put loc (.file fs.freshId)).setContent fs.freshId []) ∨
      ∃ loc d, fs.Leads p loc ∧ fs.get? loc = some (.device d) ∧ handle = .device d ∧
        opened = fs := by
  rw [openEmpty] at h
  split at h
  · cases h
  · next loc hplace =>
    split at h
    · cases h
    · cases h
      exact Or.inr (Or.inl ⟨loc, hplace, rfl, rfl⟩)
  · next loc hplace =>
    have hleads : fs.Leads p loc := leads_of_locate hplace (Grows.refl fs) fun _ he => by cases he
    split at h
    · cases h
    · cases h
    · next id hid _ =>
      cases h
      exact Or.inl ⟨loc, id, hleads, hid, rfl, rfl⟩
    · cases h
    · next d hd _ =>
      cases h
      exact Or.inr (Or.inr ⟨loc, d, hleads, hd, rfl, rfl⟩)
    · cases h

/-! ## What an open file takes -/

/-- A file with this limit takes so many bytes in all. -/
def Fits (limit? : Option Limit) (count : Nat) : Prop := ∀ limit ∈ limit?, count ≤ limit.room

instance (limit? : Option Limit) (count : Nat) : Decidable (Fits limit? count) :=
  inferInstanceAs (Decidable (∀ limit ∈ limit?, count ≤ limit.room))

theorem Fits.mono {limit? : Option Limit} {count fewer : Nat} (h : Fits limit? count)
    (hle : fewer ≤ count) : Fits limit? fewer :=
  fun limit hl => Nat.le_trans hle (h limit hl)

theorem exists_of_not_fits {limit? : Option Limit} {count : Nat} (h : ¬ Fits limit? count) :
    ∃ limit, limit? = some limit ∧ limit.room < count := by
  cases limit? with
  | none => exact absurd (fun limit hl => by cases hl) h
  | some limit =>
    refine ⟨limit, rfl, Nat.not_le.mp fun hle => h fun other ho => ?_⟩
    cases ho
    exact hle

theorem takes_of_fits {d : Device} {content : Bytes}
    (h : Fits (fs.limit? (.device d)) content.length) : d.Takes content := by
  cases d with
  | full => exact List.length_eq_zero_iff.mp (Nat.le_zero.mp (h ⟨0, .noSpace⟩ rfl))
  | null => trivial

/-- An open file is empty, and what is stored in it replaces all that its path led to. -/
theorem overwrites_of_openEmpty {p : Path} {opened : FileSystem} {handle : Handle}
    (h : fs.openEmpty p = .ok (opened, handle)) :
    opened.setStored [] handle = opened ∧
      ∀ content, Fits (opened.limit? handle) content.length →
        fs.Overwrites p content (opened.setStored content handle) := by
  rcases openEmpty_eq_ok h with ⟨loc, id, hleads, hid, rfl, rfl⟩ | ⟨loc, hplace, rfl, rfl⟩ |
    ⟨loc, d, hleads, hd, rfl, rfl⟩
  · refine ⟨setContent_setContent fs id [] [], fun content _ => ?_⟩
    rw [setStored, setContent_setContent]
    exact .replaced hleads hid
  · have hfree : fs.get? loc = none := (walkFrom_eq_ok hplace).2.free_of_vacant rfl
    refine ⟨setContent_setContent _ _ [] [], fun content _ => ?_⟩
    rw [setStored, setContent_setContent]
    refine .created hfree (leads_of_locate hplace
      ((Grows.put_of_free hfree _).trans (Grows.setContent _ _ content)) ?_)
    rintro _ ⟨⟩
    refine ⟨.file fs.freshId, fs.get?_put_self (ne_nil_of_get? hfree (by simp)) _, ?_⟩
    rintro ⟨target, htarget⟩
    cases htarget
  · exact ⟨rfl, fun content hfits => .device hleads hd (takes_of_fits hfits)⟩

section

variable (fs : FileSystem) (handle : Handle)

@[simp] theorem setStored_setStored (a b : Bytes) :
    (fs.setStored a handle).setStored b handle = fs.setStored b handle := by
  cases handle with
  | file id => exact setContent_setContent fs id a b
  | device d => rfl

@[simp] theorem limit?_setStored (content : Bytes) :
    (fs.setStored content handle).limit? handle = fs.limit? handle := by
  cases handle with
  | file id =>
    show ((fs.setContent id content).file id).limit? = (fs.file id).limit?
    rw [file_setContent, if_pos rfl]
  | device d => cases d <;> rfl

/-- Behind what is stored, bytes go into an open file as far as they fit. -/
theorem append_setStored_of_fits {sent bytes : Bytes}
    (h : Fits (fs.limit? handle) (sent ++ bytes).length) :
    (fs.setStored sent handle).append handle bytes =
      (fs.setStored (sent ++ bytes) handle, .ok ()) := by
  rw [append, limit?_setStored]
  cases handle with
  | file id =>
    have hstored : (fs.setStored sent (.file id)).stored (.file id) = sent := by
      show ((fs.setContent id sent).file id).content = sent
      rw [file_setContent, if_pos rfl]
    rw [hstored]
    cases hlimit : fs.limit? (.file id) with
    | none => rw [setStored_setStored]
    | some limit =>
      have hle := h limit hlimit
      rw [List.length_append] at hle
      dsimp only
      rw [if_pos hle, setStored_setStored]
  | device d =>
    cases d with
    | null => rfl
    | full =>
      have hle : sent.length + bytes.length ≤ 0 := by
        rw [← List.length_append]
        exact h ⟨0, .noSpace⟩ rfl
      exact if_pos (Nat.le_trans (Nat.add_le_add_right (Nat.zero_le _) _) hle)

theorem append_setStored_of_not_fits {sent bytes : Bytes} {limit : Limit}
    (hlimit : fs.limit? handle = some limit) (hsent : sent.length ≤ limit.room)
    (h : limit.room < (sent ++ bytes).length) :
    (fs.setStored sent handle).append handle bytes =
      (fs.setStored ((sent ++ bytes).take limit.room) handle, .error limit.fault) := by
  rw [List.length_append] at h
  rw [append, limit?_setStored, hlimit]
  dsimp only
  cases handle with
  | file id =>
    have hstored : (fs.setStored sent (.file id)).stored (.file id) = sent := by
      show ((fs.setContent id sent).file id).content = sent
      rw [file_setContent, if_pos rfl]
    rw [hstored, if_neg (Nat.not_le.mpr h), setStored_setStored, List.take_append,
      List.take_of_length_le hsent]
  | device d =>
    cases d with
    | null => cases hlimit
    | full =>
      cases hlimit
      have hnil : sent = [] := List.length_eq_zero_iff.mp (Nat.le_zero.mp hsent)
      subst hnil
      exact if_neg (Nat.not_le.mpr h)

/-- A file that took all it takes is not changed by writing on. -/
theorem append_setStored_of_full {stored bytes : Bytes} {limit : Limit}
    (hlimit : fs.limit? handle = some limit) (hfull : stored.length = limit.room)
    (hbytes : bytes ≠ []) :
    (fs.setStored stored handle).append handle bytes =
      (fs.setStored stored handle, .error limit.fault) := by
  have hover : limit.room < (stored ++ bytes).length := by
    have := List.length_pos_iff.mpr hbytes
    rw [List.length_append]
    omega
  rw [append_setStored_of_not_fits fs handle hlimit (Nat.le_of_eq hfull) hover, ← hfull,
    List.take_left]

variable {fs handle}

/-- An empty file that refuses every write takes no byte at all. -/
theorem limit_of_refused (hempty : fs.setStored [] handle = fs)
    (hrefused : ∀ bytes, bytes ≠ [] → ∃ e, (fs.append handle bytes).2 = .error e) :
    ∃ limit, fs.limit? handle = some limit ∧ limit.room = 0 ∧
      ∀ bytes, bytes ≠ [] → (fs.append handle bytes).2 = .error limit.fault := by
  have happend (bytes : Bytes) :
      fs.append handle bytes = (fs.setStored [] handle).append handle bytes := by rw [hempty]
  have hover : ¬ Fits (fs.limit? handle) ([] ++ [0] : Bytes).length := by
    intro hfits
    obtain ⟨e, he⟩ := hrefused [0] (List.cons_ne_nil _ _)
    rw [happend, append_setStored_of_fits fs handle hfits] at he
    cases he
  obtain ⟨limit, hlimit, hone⟩ := exists_of_not_fits hover
  have hroom : limit.room = 0 := Nat.lt_one_iff.mp hone
  refine ⟨limit, hlimit, hroom, fun bytes hne => ?_⟩
  have hlength : limit.room < ([] ++ bytes).length := by
    rw [hroom]
    exact List.length_pos_iff.mpr hne
  rw [happend, append_setStored_of_not_fits fs handle hlimit (Nat.zero_le _) hlength]

end

end FileSystem
end SimReport
