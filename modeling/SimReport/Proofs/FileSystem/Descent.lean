/-
Going down from a directory.

The places of a run lie below one directory, and their paths are its path with
names joined to it.  So every walk to one of them passes that directory, and what
it does from there on is a walk along the names (`Stands.locate_join`).
Creating a directory there is a single step, or changes nothing
(`Stands.makeDirectories_join`).
-/
import SimReport.Proofs.FileSystem.Growth
import SimReport.Proofs.Path.Ancestors

namespace SimReport

namespace Path

theorem ofPiece?_name (name : Name) : Hop.ofPiece? name.bytes = some (.into name) := by
  obtain ⟨hnil, hdot, hdots, hsep, hzero⟩ := name.valid
  rw [Hop.ofPiece?, if_neg hdot, if_neg hdots, Name.ofBytes?,
    dif_pos ⟨hnil, hdot, hdots, hsep, hzero⟩]
  rfl

theorem moves_join_name (p : Path) (name : Name) :
    (p.join name.bytes).moves = p.moves ++ [.into name] := by
  rw [moves_join p name.valid.2.2.2.1, ofPiece?_name]
  rfl

theorem hops_join_name (p : Path) (name : Name) :
    (p.join name.bytes).hops = p.moves ++ [.into name] := by
  rw [p.hops_join name.valid.2.2.2.1 name.valid.1, moves_join_name]

theorem names_join_ne_nil (p : Path) (name : Name) : (p.join name.bytes).names ≠ [] := by
  intro h
  have hlast := p.fileName?_join name
  rw [fileName?, h] at hlast
  cases hlast

theorem moves_tidy_join (p : Path) (name : Name) :
    (p.join name.bytes).tidy.moves = p.moves.filter (· ≠ .stay) ++ [.into name] := by
  rw [moves_tidy, moves_join_name, List.filter_append]
  rfl

end Path

namespace FileSystem

variable {fs grown : FileSystem} {links : Nat} {loc : Location} {hops : List Hop} {place : Place}

theorem origin_join (p : Path) (name : Name) (loc : Location) :
    origin (p.join name.bytes) loc = origin p loc := by
  rw [origin, origin, p.isAbsolute_join name.valid.2.2.2.1]

/-! ## Walks in two parts -/

theorem append_names_ne_close (hops : List Hop) {names : List Name} (h : names ≠ []) :
    hops ++ names.map .into ≠ [.close] := by
  intro he
  obtain ⟨name, names, rfl⟩ := List.exists_cons_of_ne_nil h
  have hmem : Hop.into name ∈ hops ++ (name :: names).map .into :=
    List.mem_append_right _ List.mem_cons_self
  rw [he] at hmem
  cases List.mem_singleton.mp hmem

theorem Walked.split (h : fs.Walked links loc hops place) {front back : List Hop}
    (hhops : hops = front ++ back) (hback : back ≠ []) :
    ∃ left here, fs.Walked links loc front (.present here) ∧ fs.Walked left here back place := by
  induction h generalizing front back with
  | stop links loc => exact absurd (List.append_eq_nil_iff.mp hhops.symm).2 hback
  | @turn links loc next hop rest place hpass hturn hrest ih =>
    rcases List.cons_eq_append_iff.mp hhops with ⟨rfl, rfl⟩ | ⟨front, rfl, he⟩
    · exact ⟨links, loc, .stop links loc, .turn hpass hturn hrest⟩
    · obtain ⟨left, here, hfront, hrest⟩ := ih he hback
      exact ⟨left, here, .turn hpass hturn hfront, hrest⟩
  | @free links loc name hpass hname hfree =>
    rcases List.cons_eq_append_iff.mp hhops with ⟨rfl, rfl⟩ | ⟨front, rfl, he⟩
    · exact ⟨links, loc, .stop links loc, .free hpass hname hfree⟩
    · exact absurd (List.append_eq_nil_iff.mp he.symm).2 hback
  | @link links loc name target rest place hpass hname hlink hrest ih =>
    rcases List.cons_eq_append_iff.mp hhops with ⟨rfl, rfl⟩ | ⟨front, rfl, he⟩
    · exact ⟨links + 1, loc, .stop _ loc, .link hpass hname hlink hrest⟩
    · rw [he, ← List.append_assoc] at ih
      obtain ⟨left, here, hfront, hrest⟩ := ih rfl hback
      exact ⟨left, here, .link hpass hname hlink hfront, hrest⟩
  | @entry links loc name entry rest place hpass hname hentry hnot hrest ih =>
    rcases List.cons_eq_append_iff.mp hhops with ⟨rfl, rfl⟩ | ⟨front, rfl, he⟩
    · exact ⟨links, loc, .stop links loc, .entry hpass hname hentry hnot hrest⟩
    · obtain ⟨left, here, hfront, hrest⟩ := ih he hback
      exact ⟨left, here, .entry hpass hname hentry hnot hfront, hrest⟩

/-- Behind hops that lead to a place, names are walked from there, with the links
that the hops have left.  Hops that stay can be left out: the hop behind one of
them asks for a directory as well. -/
theorem Walked.walk_append (h : fs.Walked links loc hops place) {here : Location}
    (hplace : place = .present here) :
    ∃ left, ∀ purpose front back (names : List Name), hops = front ++ back →
      (purpose = .create → names ≠ []) →
      fs.walk purpose links loc (front ++ (back.filter (· ≠ .stay) ++ names.map .into)) =
        fs.walk purpose left here (names.map .into) := by
  induction h with
  | stop links loc =>
    cases hplace
    refine ⟨links, fun purpose front back names hhops _ => ?_⟩
    obtain ⟨rfl, rfl⟩ := List.append_eq_nil_iff.mp hhops.symm
    rfl
  | @turn links loc next hop rest place hpass hturn _ ih =>
    obtain ⟨left, hleft⟩ := ih hplace
    refine ⟨left, fun purpose front back names hhops hopen => ?_⟩
    rcases List.cons_eq_append_iff.mp hhops with ⟨rfl, rfl⟩ | ⟨front, rfl, he⟩
    · rw [← hleft purpose [] rest names rfl hopen, List.nil_append, List.nil_append]
      by_cases hstay : hop = .stay
      · subst hstay
        cases hturn
        rw [List.filter_cons_of_neg (by simp)]
      · rw [List.filter_cons_of_pos (by simp [hstay]), List.cons_append, walk_turn hpass hturn]
    · rw [List.cons_append, walk_turn hpass hturn, hleft purpose front back names he hopen]
  | free => cases hplace
  | @link links loc name target rest place hpass hname hlink _ ih =>
    obtain ⟨left, hleft⟩ := ih hplace
    refine ⟨left, fun purpose front back names hhops hopen => ?_⟩
    have hclose : ∀ before : List Hop, purpose = .create → before ++ names.map .into ≠ [.close] :=
      fun before hc => append_names_ne_close before (hopen hc)
    rcases List.cons_eq_append_iff.mp hhops with ⟨rfl, rfl⟩ | ⟨front, rfl, he⟩
    · rw [List.nil_append, List.filter_cons_of_pos (by simp), List.cons_append,
        walk_into_link hpass hname hlink (hclose _),
        ← hleft purpose target.hops rest names rfl hopen]
    · rw [List.cons_append, ← List.append_assoc, walk_into_link hpass hname hlink (hclose _),
        List.append_assoc, ← List.append_assoc target.hops,
        hleft purpose (target.hops ++ front) back names (by rw [he, List.append_assoc]) hopen]
  | @entry links loc name entry rest place hpass hname hentry hnot _ ih =>
    obtain ⟨left, hleft⟩ := ih hplace
    refine ⟨left, fun purpose front back names hhops hopen => ?_⟩
    have hclose : ∀ before : List Hop, purpose = .create → before ++ names.map .into ≠ [.close] :=
      fun before hc => append_names_ne_close before (hopen hc)
    rcases List.cons_eq_append_iff.mp hhops with ⟨rfl, rfl⟩ | ⟨front, rfl, he⟩
    · rw [← hleft purpose [] rest names rfl hopen, List.nil_append, List.nil_append,
        List.filter_cons_of_pos (by simp), List.cons_append,
        walk_into_entry hpass hname hentry hnot (hclose _)]
    · rw [List.cons_append, ← List.append_assoc,
        walk_into_entry hpass hname hentry hnot (hclose _), List.append_assoc,
        hleft purpose front back names he hopen]

/-! ## Directories that paths go through -/

/-- The path leads to the directory at the place, so far as its pieces go. -/
structure Stands (fs : FileSystem) (p : Path) (base : Location) : Prop where
  walked : fs.Walked maxLinks (origin p fs.workingDirectory) p.moves (.present base)
  directory : fs.get? base = some .directory

theorem Stands.grow {p : Path} {base : Location} (h : fs.Stands p base) (hg : Grows fs grown) :
    grown.Stands p base where
  walked := by
    rw [hg.workingDirectory]
    exact h.walked.grow hg fun _ he => by cases he
  directory := hg.get? h.directory

theorem directory_of_walked_cons {hop : Hop} {rest : List Hop}
    (h : fs.Walked links loc (hop :: rest) place) : fs.get? loc = some .directory := by
  cases h <;> exact directory_of_passage ‹_›

section

variable {p : Path} {base : Location} {name : Name}

/-- What lies in a directory is only reached through it. -/
theorem Stands.of_join {here : Location} (h : fs.Stands (p.join name.bytes) here) :
    ∃ base, fs.Stands p base := by
  have hwalked := h.walked
  rw [origin_join, p.moves_join_name] at hwalked
  obtain ⟨left, base, hfront, hback⟩ := hwalked.split rfl (List.cons_ne_nil _ _)
  exact ⟨base, hfront, directory_of_walked_cons hback⟩

theorem leads_of_isDirectory {p : Path} (h : fs.isDirectory p = true) :
    ∃ loc, fs.Leads p loc ∧ fs.get? loc = some .directory := by
  rw [isDirectory, status] at h
  cases hlocate : fs.locate .look p with
  | error e =>
    rw [hlocate] at h
    cases h
  | ok place =>
    rw [hlocate] at h
    cases place with
    | vacant loc => cases h
    | present loc =>
      dsimp only at h
      refine ⟨loc, hlocate, ?_⟩
      cases hget : fs.get? loc with
      | none =>
        rw [hget] at h
        cases h
      | some entry =>
        rw [hget] at h
        cases entry with
        | directory => rfl
        | file id => cases h
        | link target => cases h
        | device d => cases h

theorem stands_of_leads {here : Location} (h : fs.Leads (p.join name.bytes) here)
    (hdir : fs.get? here = some .directory) : fs.Stands (p.join name.bytes) here where
  walked := by
    have hwalked := (walkFrom_eq_ok h).2
    rwa [p.hops_join_name, ← p.moves_join_name] at hwalked
  directory := hdir

theorem Stands.leads {here : Location} (h : fs.Stands (p.join name.bytes) here)
    (hcheck : checkPath (p.join name.bytes) = .ok ()) : fs.Leads (p.join name.bytes) here := by
  rw [Leads, locate, p.hops_join_name, ← p.moves_join_name]
  exact walkFrom_of_walked hcheck h.walked

/-- Where going into a name of a directory leads, if it is not that of a link. -/
def intoName (fs : FileSystem) (base : Location) (name : Name) : Except IoError Place :=
  match fs.passage base (.into name) with
  | .error e => .error e
  | .ok () =>
    if maxNameLength < name.bytes.length then .error .nameTooLong
    else if fs.get? (name :: base) = none then .ok (.vacant (name :: base))
    else .ok (.present (name :: base))

theorem walk_into {purpose : Purpose}
    (hlink : ∀ target, fs.get? (name :: base) ≠ some (.link target)) :
    fs.walk purpose links base [.into name] = fs.intoName base name := by
  rw [intoName]
  cases hpass : fs.passage base (.into name) with
  | error e => exact walk_refused hpass
  | ok _ =>
    dsimp only
    split
    · next hlong => exact walk_into_long hpass hlong
    · next hshort =>
      have hname := Nat.not_lt.mp hshort
      split
      · next hfree => exact walk_into_free hpass hname hfree
      · next htaken =>
        obtain ⟨entry, hentry⟩ := Option.ne_none_iff_exists'.mp htaken
        have hnot : ¬ entry.IsLink := by
          rintro ⟨target, rfl⟩
          exact hlink target hentry
        rw [walk_into_entry hpass hname hentry hnot (by simp), walk_stop]

theorem Stands.walk_join (h : fs.Stands p base) (purpose : Purpose)
    (hlink : ∀ target, fs.get? (name :: base) ≠ some (.link target)) :
    fs.walk purpose maxLinks (origin (p.join name.bytes) fs.workingDirectory)
        (p.join name.bytes).hops = fs.intoName base name := by
  obtain ⟨left, hleft⟩ := h.walked.walk_append rfl
  have hwalk := hleft purpose p.moves [] [name] (List.append_nil _).symm (by simp)
  rw [origin_join, p.hops_join_name]
  exact hwalk.trans (walk_into hlink)

/-- Where a name in a directory leads, if it is not that of a link. -/
theorem Stands.locate_join (h : fs.Stands p base) (name : Name) (purpose : Purpose)
    (hlink : ∀ target, fs.get? (name :: base) ≠ some (.link target)) :
    fs.locate purpose (p.join name.bytes) =
      match checkPath (p.join name.bytes) with
      | .error e => .error e
      | .ok () => fs.intoName base name := by
  rw [locate, walkFrom]
  cases checkPath (p.join name.bytes) with
  | error e => rfl
  | ok _ => exact h.walk_join purpose hlink

theorem intoName_eq_ok (h : fs.intoName base name = .ok place) :
    place.location = name :: base ∧ fs.passage base (.into name) = .ok () := by
  rw [intoName] at h
  split at h
  · cases h
  · next hpass =>
    split at h
    · cases h
    · split at h
      · cases h
        exact ⟨rfl, hpass⟩
      · cases h
        exact ⟨rfl, hpass⟩

theorem intoName_of_present (hpass : fs.passage base (.into name) = .ok ())
    (hname : name.bytes.length ≤ maxNameLength) (hget : fs.get? (name :: base) ≠ none) :
    fs.intoName base name = .ok (.present (name :: base)) := by
  rw [intoName, hpass]
  dsimp only
  rw [if_neg (Nat.not_lt.mpr hname), if_neg hget]

theorem Stands.eq_of_leads_join (h : fs.Stands p base)
    (hlink : ∀ target, fs.get? (name :: base) ≠ some (.link target)) {here : Location}
    (hleads : fs.Leads (p.join name.bytes) here) : here = name :: base := by
  have hcheck := (walkFrom_eq_ok hleads).1
  rw [Leads, h.locate_join name .look hlink, hcheck] at hleads
  exact (intoName_eq_ok hleads).1

theorem Stands.of_join_eq (h : fs.Stands p base)
    (hlink : ∀ target, fs.get? (name :: base) ≠ some (.link target)) {here : Location}
    (hhere : fs.Stands (p.join name.bytes) here) :
    here = name :: base ∧ fs.passage base (.into name) = .ok () := by
  have hwalk := walk_of_walked hhere.walked
  rw [p.moves_join_name, ← p.hops_join_name, h.walk_join .look hlink] at hwalk
  exact intoName_eq_ok hwalk

theorem Stands.join (h : fs.Stands p base) (hpass : fs.passage base (.into name) = .ok ())
    (hname : name.bytes.length ≤ maxNameLength)
    (hdir : fs.get? (name :: base) = some .directory) :
    fs.Stands (p.join name.bytes) (name :: base) where
  walked := by
    obtain ⟨left, hleft⟩ := h.walked.append rfl
    rw [origin_join, p.moves_join_name]
    exact hleft _ _ (.entry hpass hname hdir Entry.not_isLink_directory (.stop left _))
  directory := hdir

/-! ## A directory in another -/

theorem Stands.slot?_tidy (h : fs.Stands p base) (hname : name.bytes.length ≤ maxNameLength)
    (hcheck : checkPath (p.join name.bytes) = .ok ()) :
    fs.slot? (p.join name.bytes).tidy =
      (fs.passage base (.into name)).map fun _ => some (name :: base) := by
  have hnames := p.names_join_ne_nil name
  have hhops : (p.join name.bytes).tidy.hops.filter (· ≠ .close) =
      p.moves.filter (· ≠ .stay) ++ [.into name] := by
    rw [Path.hops_tidy hnames, Path.filter_moves, p.moves_tidy_join]
  have hwalk : fs.walkFrom .look (p.join name.bytes).tidy (p.moves.filter (· ≠ .stay)) =
      .ok (.present base) := by
    obtain ⟨left, hleft⟩ := h.walked.walk_append rfl
    have hthere := hleft .look [] p.moves [] rfl (by simp)
    rw [List.map_nil, List.append_nil, List.nil_append, walk_stop] at hthere
    rw [walkFrom, Path.checkPath_tidy hnames hcheck, origin, Path.isAbsolute_tidy,
      p.isAbsolute_join name.valid.2.2.2.1]
    exact hthere
  rw [slot?, hhops]
  simp only [List.getLast?_concat, List.dropLast_concat, hwalk]
  cases fs.passage base (.into name) with
  | error e => rfl
  | ok _ => exact if_neg (Nat.not_lt.mpr hname)

/-- Empty pieces and single dots do not matter on the way to a name. -/
theorem Stands.locate_tidy (h : fs.Stands p base)
    (hcheck : checkPath (p.join name.bytes) = .ok ()) :
    fs.locate .look (p.join name.bytes).tidy = fs.locate .look (p.join name.bytes) := by
  have hnames := p.names_join_ne_nil name
  obtain ⟨left, hleft⟩ := h.walked.walk_append rfl
  have hplain := hleft .look p.moves [] [name] (List.append_nil _).symm (by simp)
  have htidy := hleft .look [] p.moves [name] rfl (by simp)
  rw [locate, walkFrom, Path.checkPath_tidy hnames hcheck, Path.hops_tidy hnames,
    p.moves_tidy_join, origin, Path.isAbsolute_tidy]
  rw [locate, walkFrom, hcheck, p.hops_join_name, origin, p.isAbsolute_join name.valid.2.2.2.1]
  exact htidy.trans hplain.symm

theorem ne_notFound_of_permit {request : Request} {e : IoError}
    (h : fs.permit request = .error e) : e ≠ .notFound := by
  rw [permit] at h
  rintro rfl
  split at h <;> cases h

theorem ne_notFound_of_passage {hop : Hop} {e : IoError} (h : fs.passage loc hop = .error e) :
    e ≠ .notFound := by
  rw [passage] at h
  split at h
  · rintro rfl
    cases h
  · split at h
    · cases h
    · exact ne_notFound_of_permit h

/-- Where the directory above is there, the place is free and is taken, or nothing is changed. -/
theorem makeDirectory_cases {p : Path} {loc : Location} (h : fs.slot? p = .ok (some loc)) :
    (fs.get? loc = none ∧ fs.makeDirectory p = .ok (fs.put loc .directory)) ∨
      ∃ e, e ≠ .notFound ∧ fs.makeDirectory p = .error e := by
  rw [makeDirectory, add, h]
  dsimp only
  cases hget : fs.get? loc with
  | some entry => exact Or.inr ⟨.alreadyExists, by simp, rfl⟩
  | none =>
    cases hpermit : fs.permit (.add loc) with
    | error e => exact Or.inr ⟨e, ne_notFound_of_permit hpermit, rfl⟩
    | ok _ => exact Or.inl ⟨rfl, rfl⟩

/-- A directory inside one that is there is created in a single step, or nothing is changed. -/
theorem Stands.makeDirectories_join (h : fs.Stands p base) (name : Name)
    (hname : name.bytes.length ≤ maxNameLength) (hcheck : checkPath (p.join name.bytes) = .ok ()) :
    (fs.get? (name :: base) = none ∧ fs.passage base (.into name) = .ok () ∧
        fs.makeDirectories (p.join name.bytes) = (fs.put (name :: base) .directory, .ok ())) ∨
      ∃ e, fs.makeDirectories (p.join name.bytes) =
        (fs, if fs.isDirectory (p.join name.bytes) then .ok () else .error e) := by
  obtain ⟨above, habove⟩ := Path.ancestors_eq_tidy (p.names_join_ne_nil name)
  have hdirectory :
      fs.isDirectory (p.join name.bytes).tidy = fs.isDirectory (p.join name.bytes) := by
    rw [isDirectory, isDirectory, status, status, h.locate_tidy hcheck]
  have hrefused {e : IoError} (hne : e ≠ .notFound)
      (hmake : fs.makeDirectory (p.join name.bytes).tidy = .error e) :
      fs.makeDirectories (p.join name.bytes) =
        (fs, if fs.isDirectory (p.join name.bytes) then .ok () else .error e) := by
    rw [makeDirectories, hcheck]
    dsimp only
    rw [habove, makeAncestors, hmake, hdirectory]
    cases e <;> first | rfl | exact absurd rfl hne
  have hslot := h.slot?_tidy hname hcheck
  cases hpass : fs.passage base (.into name) with
  | error e =>
    rw [hpass] at hslot
    have hmake : fs.makeDirectory (p.join name.bytes).tidy = .error e := by
      rw [makeDirectory, add, hslot]
      rfl
    exact Or.inr ⟨e, hrefused (ne_notFound_of_passage hpass) hmake⟩
  | ok _ =>
    have hplace : fs.slot? (p.join name.bytes).tidy = .ok (some (name :: base)) := by
      rw [hslot, hpass]
      rfl
    obtain ⟨hfree, hmake⟩ | ⟨e, hne, hmake⟩ := makeDirectory_cases hplace
    · refine Or.inl ⟨hfree, rfl, ?_⟩
      rw [makeDirectories, hcheck]
      dsimp only
      rw [habove, makeAncestors, hmake]
    · exact Or.inr ⟨e, hrefused hne hmake⟩

end

end FileSystem
end SimReport
