/-
The first ancestor of a path.

The ancestors of a path are put together from its names, so the first of them is
the path itself without empty pieces and single dots: it is `tidy`.  It asks for
the moves of the path except those that stay, and it is no longer than the path.
-/
import SimReport.Proofs.Path

namespace SimReport
namespace Path

/-! ## Joining -/

theorem isAbsolute_join (p : Path) {piece : Bytes} (h : separator ∉ piece) :
    (p.join piece).isAbsolute = p.isAbsolute := by
  rw [join, isAbsolute_of_not_mem h, if_neg Bool.false_ne_true]
  cases p with
  | nil =>
    rw [if_pos (Or.inl rfl)]
    exact isAbsolute_of_not_mem h
  | cons b p => split <;> rfl

theorem moves_join (p : Path) {piece : Bytes} (h : separator ∉ piece) :
    (p.join piece).moves = p.moves ++ (Hop.ofPiece? piece).toList := by
  obtain ⟨before, hjoin, hp⟩ := pieces_join p h
  have hbefore : p.moves = before.filterMap Hop.ofPiece? := by
    rw [moves]
    rcases hp with hp | hp
    · rw [hp]
    · rw [hp, List.filterMap_append]
      exact List.append_nil _
  rw [hbefore, moves, hjoin, List.filterMap_append]
  cases hpiece : Hop.ofPiece? piece with
  | none => rw [List.filterMap_cons_none hpiece]; rfl
  | some hop => rw [List.filterMap_cons_some hpiece]; rfl

theorem suffix_join (p : Path) {piece : Bytes} (h : separator ∉ piece) :
    piece <:+ p.join piece := by
  rw [join, isAbsolute_of_not_mem h, if_neg Bool.false_ne_true]
  split
  · exact List.suffix_append p piece
  · exact (List.suffix_cons separator piece).trans (List.suffix_append p _)

/-- The path ends as the piece does, and so in no separator. -/
theorem hops_join (p : Path) {piece : Bytes} (h : separator ∉ piece) (hne : piece ≠ []) :
    (p.join piece).hops = (p.join piece).moves := by
  obtain ⟨last, hlast⟩ := Option.ne_none_iff_exists'.mp (mt List.getLast?_eq_none_iff.mp hne)
  have hends : (p.join piece).getLast? = some last := by
    obtain ⟨before, he⟩ := suffix_join p h
    rw [← he, List.getLast?_append, hlast, Option.some_or]
  have hsep : last ≠ separator := fun e => h (e ▸ List.mem_of_getLast? hlast)
  rw [hops, hends, if_neg (fun e => hsep (Option.some.inj e))]
  exact List.append_nil _

theorem length_join_le (p : Path) {piece : Bytes} (h : separator ∉ piece) :
    (p.join piece).length ≤ p.length + piece.length + 1 := by
  rw [join, isAbsolute_of_not_mem h, if_neg Bool.false_ne_true]
  split
  · rw [List.length_append]
    omega
  · rw [List.length_append, List.length_cons]
    omega

theorem mem_join {p : Path} {piece : Bytes} (h : separator ∉ piece) {b : UInt8}
    (hb : b ∈ p.join piece) : b ∈ p ∨ b = separator ∨ b ∈ piece := by
  rw [join, isAbsolute_of_not_mem h, if_neg Bool.false_ne_true] at hb
  split at hb
  · rcases List.mem_append.mp hb with hb | hb
    · exact Or.inl hb
    · exact Or.inr (Or.inr hb)
  · rcases List.mem_append.mp hb with hb | hb
    · exact Or.inl hb
    · exact Or.inr (List.mem_cons.mp hb)

/-! ## Many pieces -/

section

variable {names : List Bytes}

theorem isAbsolute_foldl_join (h : ∀ name ∈ names, separator ∉ name) (p : Path) :
    (names.foldl join p).isAbsolute = p.isAbsolute := by
  induction names generalizing p with
  | nil => rfl
  | cons name names ih =>
    rw [List.foldl_cons, ih (fun n hn => h n (List.mem_cons_of_mem _ hn)),
      isAbsolute_join p (h name List.mem_cons_self)]

theorem moves_foldl_join (h : ∀ name ∈ names, separator ∉ name) (p : Path) :
    (names.foldl join p).moves = p.moves ++ names.filterMap Hop.ofPiece? := by
  induction names generalizing p with
  | nil => exact (List.append_nil _).symm
  | cons name names ih =>
    rw [List.foldl_cons, ih (fun n hn => h n (List.mem_cons_of_mem _ hn)),
      moves_join p (h name List.mem_cons_self), List.append_assoc]
    cases hname : Hop.ofPiece? name with
    | none => rw [List.filterMap_cons_none hname]; rfl
    | some hop => rw [List.filterMap_cons_some hname]; rfl

/-- The number of bytes of the pieces with a separator behind each of them. -/
def extent : List Bytes → Nat
  | [] => 0
  | piece :: pieces => piece.length + 1 + extent pieces

theorem length_foldl_join_le (h : ∀ name ∈ names, separator ∉ name) (p : Path) :
    (names.foldl join p).length ≤ p.length + extent names := by
  induction names generalizing p with
  | nil => exact Nat.le_refl _
  | cons name names ih =>
    have hrest := ih (fun n hn => h n (List.mem_cons_of_mem _ hn)) (p.join name)
    have hfirst := length_join_le p (h name List.mem_cons_self)
    rw [List.foldl_cons, extent]
    omega

theorem mem_foldl_join (h : ∀ name ∈ names, separator ∉ name) {p : Path} {b : UInt8}
    (hb : b ∈ names.foldl join p) : b ∈ p ∨ b = separator ∨ ∃ name ∈ names, b ∈ name := by
  induction names generalizing p with
  | nil => exact Or.inl hb
  | cons name names ih =>
    rcases ih (fun n hn => h n (List.mem_cons_of_mem _ hn)) hb with hb | hb | ⟨n, hn, hb⟩
    · rcases mem_join (h name List.mem_cons_self) hb with hb | hb | hb
      · exact Or.inl hb
      · exact Or.inr (Or.inl hb)
      · exact Or.inr (Or.inr ⟨name, List.mem_cons_self, hb⟩)
    · exact Or.inr (Or.inl hb)
    · exact Or.inr (Or.inr ⟨n, List.mem_cons_of_mem _ hn, hb⟩)

theorem extent_pieces (p : Path) : extent p.pieces = p.length + 1 := by
  induction p with
  | nil => rfl
  | cons b p ih =>
    rw [pieces]
    split
    · rw [extent, ih, List.length_cons, List.length_nil]
      omega
    · obtain ⟨piece, others, he⟩ := List.exists_cons_of_ne_nil (pieces_ne_nil p)
      rw [he, extent] at ih
      rw [he]
      dsimp only
      rw [extent, List.length_cons, List.length_cons]
      omega

theorem extent_filter_le (keep : Bytes → Bool) (pieces : List Bytes) :
    extent (pieces.filter keep) ≤ extent pieces := by
  induction pieces with
  | nil => exact Nat.le_refl _
  | cons piece pieces ih =>
    by_cases hk : keep piece = true
    · rw [List.filter_cons_of_pos hk, extent, extent]
      omega
    · rw [List.filter_cons_of_neg hk, extent]
      omega

end

/-! ## The tidy form -/

def root (p : Path) : Path := if p.isAbsolute then [separator] else []

/-- The path from its names alone. -/
def tidy (p : Path) : Path := p.names.foldl join p.root

theorem separator_not_mem_of_mem_names {p : Path} {name : Bytes} (h : name ∈ p.names) :
    separator ∉ name :=
  fun hb => (mem_of_mem_pieces (List.mem_filter.mp h).1 hb).2 rfl

theorem ne_nil_of_mem_names {p : Path} {name : Bytes} (h : name ∈ p.names) : name ≠ [] :=
  (of_decide_eq_true (List.mem_filter.mp h).2).1

theorem ancestors_eq_tidy {p : Path} (h : p.names ≠ []) :
    ∃ above, p.ancestors = p.tidy :: above := by
  -- Once there is an ancestor, each further name puts the next one in front.
  have hgo : ∀ (names : List Bytes) (q : Path) (above : List Path), ∃ above',
      names.foldl (fun above name => (above.headD p.root).join name :: above) (q :: above) =
        names.foldl join q :: above' := by
    intro names
    induction names with
    | nil => exact fun q above => ⟨above, rfl⟩
    | cons name names ih => exact fun q above => ih (q.join name) (q :: above)
  obtain ⟨name, names, he⟩ := List.exists_cons_of_ne_nil h
  rw [tidy, he]
  show ∃ above, p.names.foldl _ [] = _
  rw [he]
  exact hgo names (p.root.join name) []

theorem moves_root (p : Path) : p.root.moves = [] := by
  rw [root]
  split <;> rfl

theorem isAbsolute_root (p : Path) : p.root.isAbsolute = p.isAbsolute := by
  rw [root]
  split
  · next h => rw [h]; rfl
  · next h => rw [Bool.not_eq_true] at h; rw [h]; rfl

theorem isAbsolute_tidy (p : Path) : p.tidy.isAbsolute = p.isAbsolute := by
  rw [tidy, isAbsolute_foldl_join fun _ => separator_not_mem_of_mem_names, isAbsolute_root]

/-- Of the pieces that are no names, the empty ones ask for no move. -/
theorem filterMap_filter_pieces (pieces : List Bytes) :
    (pieces.filter fun piece => piece ≠ [] ∧ piece ≠ dot).filterMap Hop.ofPiece? =
      (pieces.filterMap Hop.ofPiece?).filter (· ≠ .stay) := by
  have hnil : Hop.ofPiece? [] = none := rfl
  have hdot : Hop.ofPiece? dot = some .stay := rfl
  induction pieces with
  | nil => rfl
  | cons piece pieces ih =>
    by_cases he : piece = []
    · rw [he, List.filter_cons_of_neg (by simp), List.filterMap_cons_none hnil, ih]
    · by_cases hd : piece = dot
      · rw [hd, List.filter_cons_of_neg (by simp), List.filterMap_cons_some hdot,
          List.filter_cons_of_neg (by simp), ih]
      · rw [List.filter_cons_of_pos (by simp [he, hd])]
        cases hpiece : Hop.ofPiece? piece with
        | none => rw [List.filterMap_cons_none hpiece, List.filterMap_cons_none hpiece, ih]
        | some hop =>
          have hstay : hop ≠ .stay := by
            rintro rfl
            rw [Hop.ofPiece?, if_neg hd] at hpiece
            split at hpiece
            · cases hpiece
            · obtain ⟨name, -, hname⟩ := Option.map_eq_some_iff.mp hpiece
              cases hname
          rw [List.filterMap_cons_some hpiece, List.filterMap_cons_some hpiece,
            List.filter_cons_of_pos (by simp [hstay]), ih]

theorem moves_tidy (p : Path) : p.tidy.moves = p.moves.filter (· ≠ .stay) := by
  rw [tidy, moves_foldl_join fun _ => separator_not_mem_of_mem_names, moves_root, List.nil_append,
    names, filterMap_filter_pieces, moves]

theorem tidy_eq_join {p : Path} (h : p.names ≠ []) :
    ∃ before : Path, ∃ name ∈ p.names, p.tidy = before.join name := by
  obtain ⟨before, name, he⟩ := (List.eq_nil_or_concat p.names).resolve_left h
  rw [List.concat_eq_append] at he
  refine ⟨before.foldl join p.root, name, ?_, ?_⟩
  · rw [he]
    exact List.mem_append_right _ List.mem_cons_self
  · rw [tidy, he, List.foldl_append]
    rfl

theorem hops_tidy {p : Path} (h : p.names ≠ []) : p.tidy.hops = p.tidy.moves := by
  obtain ⟨before, name, hname, he⟩ := tidy_eq_join h
  rw [he]
  exact hops_join before (separator_not_mem_of_mem_names hname) (ne_nil_of_mem_names hname)

theorem extent_names_le (p : Path) : p.root.length + extent p.names ≤ p.length + 1 := by
  rw [root]
  split
  · next h =>
    -- The piece in front of the first separator is empty, and no name.
    cases p with
    | nil => cases h
    | cons b p =>
      obtain rfl : b = separator := by simpa [isAbsolute] using h
      have hnames : names (separator :: p) = names p := by simp [names, pieces]
      have hle := extent_filter_le (fun piece => piece ≠ [] ∧ piece ≠ dot) (pieces p)
      have hpieces := extent_pieces p
      rw [hnames, names, List.length_singleton, List.length_cons]
      omega
  · have hle := extent_filter_le (fun piece => piece ≠ [] ∧ piece ≠ dot) p.pieces
    have hpieces := extent_pieces p
    rw [names, List.length_nil]
    omega

theorem length_tidy_le {p : Path} (h : p.names ≠ []) : p.tidy.length ≤ p.length := by
  obtain ⟨name, names, he⟩ := List.exists_cons_of_ne_nil h
  have hmem : ∀ n ∈ name :: names, separator ∉ n := fun n hn =>
    separator_not_mem_of_mem_names (he ▸ hn)
  have hbound := extent_names_le p
  have hfirst : (p.root.join name).length = p.root.length + name.length := by
    rw [join, isAbsolute_of_not_mem (hmem name List.mem_cons_self), if_neg Bool.false_ne_true,
      if_pos, List.length_append]
    rw [root]
    split
    · exact Or.inr rfl
    · exact Or.inl rfl
  have hrest := length_foldl_join_le (fun n hn => hmem n (List.mem_cons_of_mem _ hn))
    (p.root.join name)
  rw [he, extent] at hbound
  rw [tidy, he, List.foldl_cons]
  omega

theorem tidy_ne_nil {p : Path} (h : p.names ≠ []) : p.tidy ≠ [] := by
  obtain ⟨before, name, hname, he⟩ := tidy_eq_join h
  have hsuffix := suffix_join before (separator_not_mem_of_mem_names hname)
  intro hnil
  rw [← he, hnil] at hsuffix
  exact ne_nil_of_mem_names hname (List.suffix_nil.mp hsuffix)

theorem mem_of_mem_tidy {p : Path} {b : UInt8} (h : b ∈ p.tidy) : b ∈ p ∨ b = separator := by
  rcases mem_foldl_join (fun _ => separator_not_mem_of_mem_names) h with hb | hb | ⟨name, hn, hb⟩
  · rw [root] at hb
    split at hb
    · exact Or.inr (List.mem_singleton.mp hb)
    · exact absurd hb List.not_mem_nil
  · exact Or.inr hb
  · exact Or.inl (mem_of_mem_pieces (List.mem_filter.mp hn).1 hb).1

theorem checkPath_eq_ok_iff {p : Path} :
    FileSystem.checkPath p = .ok () ↔
      0 ∉ p ∧ p ≠ [] ∧ p.length ≤ FileSystem.maxPathLength := by
  rw [FileSystem.checkPath]
  simp only [List.contains_eq_mem, decide_eq_true_eq]
  by_cases hzero : 0 ∈ p
  · simp [hzero]
  · by_cases hnil : p = []
    · simp [hnil]
    · by_cases hlong : FileSystem.maxPathLength < p.length
      · simp [hzero, hnil, hlong, Nat.not_le.mpr hlong]
      · simp [hzero, hnil, hlong, Nat.not_lt.mp hlong]

theorem checkPath_tidy {p : Path} (h : p.names ≠ []) (hp : FileSystem.checkPath p = .ok ()) :
    FileSystem.checkPath p.tidy = .ok () := by
  obtain ⟨hzero, -, hlength⟩ := checkPath_eq_ok_iff.mp hp
  refine checkPath_eq_ok_iff.mpr
    ⟨fun hmem => ?_, tidy_ne_nil h, Nat.le_trans (length_tidy_le h) hlength⟩
  rcases mem_of_mem_tidy hmem with hmem | he
  · exact hzero hmem
  · exact absurd he (by decide)

end Path
end SimReport
