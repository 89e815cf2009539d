/-
Walks as a relation.

`Walked` says, hop by hop, how a walk comes to an end, with the number of links
that it may still follow.  Facts about walks are inductions over this relation,
one case for each kind of hop, where the function would ask for one induction
over the links and another over the hops.
-/
import SimReport.FileSystem.Resolve

namespace SimReport

def Entry.IsLink (entry : Entry) : Prop := ∃ target, entry = .link target

instance (entry : Entry) : Decidable entry.IsLink :=
  match entry with
  | .link target => .isTrue ⟨target, rfl⟩
  | .directory | .file _ | .device _ => .isFalse fun ⟨_, h⟩ => nomatch h

theorem Entry.not_isLink_directory : ¬ Entry.directory.IsLink := by
  rintro ⟨target, h⟩
  cases h

namespace FileSystem

variable {fs : FileSystem}

/-- Where a hop leads that does not go into a name. -/
def turn? : Hop → Location → Option Location
  | .stay, loc => some loc
  | .up, loc => some loc.tail
  | .into _, _ => none
  | .close, loc => some loc

inductive Walked (fs : FileSystem) : Nat → Location → List Hop → Place → Prop
  | stop (links : Nat) (loc : Location) : Walked fs links loc [] (.present loc)
  | turn {links : Nat} {loc next : Location} {hop : Hop} {rest : List Hop} {place : Place} :
      fs.passage loc hop = .ok () → turn? hop loc = some next →
      Walked fs links next rest place → Walked fs links loc (hop :: rest) place
  | free {links : Nat} {loc : Location} {name : Name} :
      fs.passage loc (.into name) = .ok () → name.bytes.length ≤ maxNameLength →
      fs.get? (name :: loc) = none → Walked fs links loc [.into name] (.vacant (name :: loc))
  /-- The hops of the target stand in for the link. -/
  | link {links : Nat} {loc : Location} {name : Name} {target : Path} {rest : List Hop}
      {place : Place} :
      fs.passage loc (.into name) = .ok () → name.bytes.length ≤ maxNameLength →
      fs.get? (name :: loc) = some (.link target) →
      Walked fs links (origin target loc) (target.hops ++ rest) place →
      Walked fs (links + 1) loc (.into name :: rest) place
  | entry {links : Nat} {loc : Location} {name : Name} {entry : Entry} {rest : List Hop}
      {place : Place} :
      fs.passage loc (.into name) = .ok () → name.bytes.length ≤ maxNameLength →
      fs.get? (name :: loc) = some entry → ¬ entry.IsLink →
      Walked fs links (name :: loc) rest place → Walked fs links loc (.into name :: rest) place

section

variable {loc : Location} {hop : Hop}

theorem directory_of_passage (h : fs.passage loc hop = .ok ()) :
    fs.get? loc = some .directory := by
  refine Decidable.byContradiction fun hdir => ?_
  rw [passage, if_pos hdir] at h
  cases h

/-- A separator at the end of a path asks for no more than a directory. -/
theorem passage_close (hdir : fs.get? loc = some .directory) : fs.passage loc .close = .ok () := by
  rw [passage, if_neg (not_not_intro hdir), if_pos rfl]

end

section

variable {purpose : Purpose} {follow : Location → Path → List Hop → Except IoError Place}
  {loc : Location} {hop : Hop} {rest : List Hop} {name : Name} {place : Place}

theorem walkWith_refused {e : IoError} (hpass : fs.passage loc hop = .error e) :
    fs.walkWith purpose follow loc (hop :: rest) = .error e := by
  cases hop <;> rw [walkWith, hpass]

theorem passage_of_walkWith_cons
    (h : fs.walkWith purpose follow loc (hop :: rest) = .ok place) :
    fs.passage loc hop = .ok () := by
  cases hpass : fs.passage loc hop with
  | ok _ => rfl
  | error e =>
    rw [walkWith_refused hpass] at h
    cases h

theorem walkWith_turn (hpass : fs.passage loc hop = .ok ()) {next : Location}
    (h : turn? hop loc = some next) :
    fs.walkWith purpose follow loc (hop :: rest) = fs.walkWith purpose follow next rest := by
  cases hop <;> cases h <;> rw [walkWith, hpass]

theorem walkWith_into_long (hpass : fs.passage loc (.into name) = .ok ())
    (hname : maxNameLength < name.bytes.length) :
    fs.walkWith purpose follow loc [.into name] = .error .nameTooLong := by
  rw [walkWith, hpass]
  dsimp only
  rw [if_neg (fun hc => by cases hc.2), if_pos hname]

theorem walkWith_into_free (hpass : fs.passage loc (.into name) = .ok ())
    (hname : name.bytes.length ≤ maxNameLength) (h : fs.get? (name :: loc) = none) :
    fs.walkWith purpose follow loc [.into name] = .ok (.vacant (name :: loc)) := by
  rw [walkWith, hpass]
  dsimp only
  rw [if_neg (fun hc => by cases hc.2), if_neg (Nat.not_lt.mpr hname), h]
  rfl

theorem walkWith_into_link (hpass : fs.passage loc (.into name) = .ok ())
    (hname : name.bytes.length ≤ maxNameLength) {target : Path}
    (h : fs.get? (name :: loc) = some (.link target))
    (hopen : purpose = .create → rest ≠ [.close]) :
    fs.walkWith purpose follow loc (.into name :: rest) = follow loc target rest := by
  rw [walkWith, hpass]
  dsimp only
  rw [if_neg (fun hc => hopen hc.1 hc.2), if_neg (Nat.not_lt.mpr hname), h]

theorem walkWith_into_entry (hpass : fs.passage loc (.into name) = .ok ())
    (hname : name.bytes.length ≤ maxNameLength) {entry : Entry}
    (h : fs.get? (name :: loc) = some entry) (hnot : ¬ entry.IsLink)
    (hopen : purpose = .create → rest ≠ [.close]) :
    fs.walkWith purpose follow loc (.into name :: rest) =
      fs.walkWith purpose follow (name :: loc) rest := by
  rw [walkWith, hpass]
  dsimp only
  rw [if_neg (fun hc => hopen hc.1 hc.2), if_neg (Nat.not_lt.mpr hname), h]
  cases entry with
  | link target => exact absurd ⟨target, rfl⟩ hnot
  | directory => rfl
  | file id => rfl
  | device d => rfl

/-- A walk that may follow links comes to an end as the relation says. -/
theorem walked_of_walkWith {links : Nat}
    (hfollow : ∀ loc target rest, follow loc target rest = .ok place → ∃ left, links = left + 1 ∧
      fs.Walked left (origin target loc) (target.hops ++ rest) place)
    {hops : List Hop} (h : fs.walkWith purpose follow loc hops = .ok place) :
    fs.Walked links loc hops place := by
  induction hops generalizing loc with
  | nil =>
    cases h
    exact .stop links loc
  | cons hop rest ih =>
    have hpass := passage_of_walkWith_cons h
    cases hop with
    | stay => exact .turn hpass rfl (ih ((walkWith_turn hpass rfl).symm.trans h))
    | up => exact .turn hpass rfl (ih ((walkWith_turn hpass rfl).symm.trans h))
    | close => exact .turn hpass rfl (ih ((walkWith_turn hpass rfl).symm.trans h))
    | into name =>
      rw [walkWith, hpass] at h
      dsimp only at h
      split at h
      · cases h
      · split at h
        · cases h
        · next hlen =>
          have hname := Nat.not_lt.mp hlen
          split at h
          · next hfree =>
            split at h
            · next hrest =>
              cases h
              subst hrest
              exact .free hpass hname hfree
            · cases h
          · next target hlink =>
            obtain ⟨left, rfl, hwalked⟩ := hfollow loc target rest h
            exact .link hpass hname hlink hwalked
          · next entry hnot hentry =>
            refine .entry hpass hname hentry ?_ (ih h)
            rintro ⟨target, rfl⟩
            exact hnot target rfl

end

theorem walked_of_walk {purpose : Purpose} {links : Nat} {loc : Location} {hops : List Hop}
    {place : Place} (h : fs.walk purpose links loc hops = .ok place) :
    fs.Walked links loc hops place := by
  induction links generalizing loc hops with
  | zero =>
    apply walked_of_walkWith _ h
    intro inside target rest hfollow
    cases hfollow
  | succ links ih =>
    apply walked_of_walkWith _ h
    intro inside target rest hfollow
    exact ⟨links, rfl, ih hfollow⟩

section

variable {purpose : Purpose} {links : Nat} {loc : Location} {rest : List Hop} {name : Name}

theorem walk_stop (fs : FileSystem) (purpose : Purpose) (links : Nat) (loc : Location) :
    fs.walk purpose links loc [] = .ok (.present loc) := by
  cases links <;> rfl

theorem walk_refused {hop : Hop} {e : IoError} (hpass : fs.passage loc hop = .error e) :
    fs.walk purpose links loc (hop :: rest) = .error e := by
  cases links <;> exact walkWith_refused hpass

theorem walk_turn {hop : Hop} (hpass : fs.passage loc hop = .ok ()) {next : Location}
    (h : turn? hop loc = some next) :
    fs.walk purpose links loc (hop :: rest) = fs.walk purpose links next rest := by
  cases links <;> exact walkWith_turn hpass h

theorem walk_into_long (hpass : fs.passage loc (.into name) = .ok ())
    (hname : maxNameLength < name.bytes.length) :
    fs.walk purpose links loc [.into name] = .error .nameTooLong := by
  cases links <;> exact walkWith_into_long hpass hname

theorem walk_into_free (hpass : fs.passage loc (.into name) = .ok ())
    (hname : name.bytes.length ≤ maxNameLength) (h : fs.get? (name :: loc) = none) :
    fs.walk purpose links loc [.into name] = .ok (.vacant (name :: loc)) := by
  cases links <;> exact walkWith_into_free hpass hname h

theorem walk_into_link (hpass : fs.passage loc (.into name) = .ok ())
    (hname : name.bytes.length ≤ maxNameLength) {target : Path}
    (h : fs.get? (name :: loc) = some (.link target))
    (hopen : purpose = .create → rest ≠ [.close]) :
    fs.walk purpose (links + 1) loc (.into name :: rest) =
      fs.walk purpose links (origin target loc) (target.hops ++ rest) :=
  walkWith_into_link hpass hname h hopen

theorem walk_into_entry (hpass : fs.passage loc (.into name) = .ok ())
    (hname : name.bytes.length ≤ maxNameLength) {entry : Entry}
    (h : fs.get? (name :: loc) = some entry) (hnot : ¬ entry.IsLink)
    (hopen : purpose = .create → rest ≠ [.close]) :
    fs.walk purpose links loc (.into name :: rest) = fs.walk purpose links (name :: loc) rest := by
  cases links <;> exact walkWith_into_entry hpass hname h hnot hopen

end

theorem walk_of_walked {links : Nat} {loc : Location} {hops : List Hop} {place : Place}
    (h : fs.Walked links loc hops place) : fs.walk .look links loc hops = .ok place := by
  induction h with
  | stop links loc => exact walk_stop fs .look links loc
  | turn hpass hturn _ ih => rw [walk_turn hpass hturn, ih]
  | free hpass hname hfree => exact walk_into_free hpass hname hfree
  | link hpass hname hlink _ ih => rw [walk_into_link hpass hname hlink (by simp), ih]
  | entry hpass hname hentry hnot _ ih => rw [walk_into_entry hpass hname hentry hnot (by simp), ih]

theorem walkFrom_eq_ok {purpose : Purpose} {p : Path} {hops : List Hop} {place : Place}
    (h : fs.walkFrom purpose p hops = .ok place) :
    checkPath p = .ok () ∧ fs.Walked maxLinks (origin p fs.workingDirectory) hops place := by
  rw [walkFrom] at h
  split at h
  · cases h
  · next hcheck => exact ⟨hcheck, walked_of_walk h⟩

theorem walkFrom_of_walked {p : Path} {hops : List Hop} {place : Place}
    (hcheck : checkPath p = .ok ())
    (h : fs.Walked maxLinks (origin p fs.workingDirectory) hops place) :
    fs.walkFrom .look p hops = .ok place := by
  rw [walkFrom, hcheck]
  exact walk_of_walked h

namespace Walked

variable {links : Nat} {loc : Location} {hops : List Hop}

/-- Behind hops that lead to a place, a walk goes on from there with the links
that the hops have left. -/
theorem append {place : Place} (h : fs.Walked links loc hops place) {here : Location}
    (hplace : place = .present here) :
    ∃ left, ∀ rest stop, fs.Walked left here rest stop →
      fs.Walked links loc (hops ++ rest) stop := by
  induction h with
  | stop links loc =>
    cases hplace
    exact ⟨links, fun rest stop h => h⟩
  | turn hpass hturn _ ih =>
    obtain ⟨left, hleft⟩ := ih hplace
    exact ⟨left, fun rest stop h => .turn hpass hturn (hleft rest stop h)⟩
  | free => cases hplace
  | link hpass hname hlink _ ih =>
    obtain ⟨left, hleft⟩ := ih hplace
    refine ⟨left, fun rest stop h => .link hpass hname hlink ?_⟩
    have hwalked := hleft rest stop h
    rw [List.append_assoc] at hwalked
    exact hwalked
  | entry hpass hname hentry hnot _ ih =>
    obtain ⟨left, hleft⟩ := ih hplace
    exact ⟨left, fun rest stop h => .entry hpass hname hentry hnot (hleft rest stop h)⟩

theorem free_of_vacant {place : Place} (h : fs.Walked links loc hops place) {free : Location}
    (hplace : place = .vacant free) : fs.get? free = none := by
  induction h with
  | stop => cases hplace
  | turn _ _ _ ih => exact ih hplace
  | free _ _ hfree =>
    cases hplace
    exact hfree
  | link _ _ _ _ ih => exact ih hplace
  | entry _ _ _ _ _ ih => exact ih hplace

theorem closes (hdir : fs.get? loc = some .directory) (h : ∀ hop ∈ hops, hop = .close) :
    fs.Walked links loc hops (.present loc) := by
  induction hops with
  | nil => exact .stop links loc
  | cons hop hops ih =>
    obtain rfl := h hop List.mem_cons_self
    exact .turn (passage_close hdir) rfl (ih fun hop hmem => h hop (List.mem_cons_of_mem _ hmem))

end Walked
end FileSystem
end SimReport
