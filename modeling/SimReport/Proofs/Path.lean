/-
The last name of a path.

An entry of a directory keeps its name as the last one of its path, however the
path of the directory ends.  A path that is walked into a name at its end has
that name for its last one, because empty pieces are the only ones that a walk
passes over.
-/
import SimReport.FileSystem.Resolve

namespace SimReport
namespace Path

/-! ## Pieces -/

theorem pieces_ne_nil (p : Path) : p.pieces ≠ [] := by
  cases p with
  | nil => simp [pieces]
  | cons b p =>
    rw [pieces]
    split
    · exact List.cons_ne_nil _ _
    · split <;> exact List.cons_ne_nil _ _

theorem pieces_append_separator (p rest : Path) :
    (p ++ separator :: rest).pieces = p.pieces ++ rest.pieces := by
  induction p with
  | nil => simp [pieces]
  | cons b p ih =>
    by_cases hb : b = separator
    · simp [pieces, hb, ih]
    · obtain ⟨piece, others, h⟩ := List.exists_cons_of_ne_nil (pieces_ne_nil p)
      simp [pieces, hb, ih, h]

theorem pieces_of_not_mem {p : Path} (h : separator ∉ p) : p.pieces = [p] := by
  induction p with
  | nil => rfl
  | cons b p ih =>
    rw [List.mem_cons, not_or] at h
    rw [pieces, if_neg (Ne.symm h.1), ih h.2]

theorem mem_of_mem_pieces {p piece : Bytes} (h : piece ∈ pieces p) {b : UInt8} (hb : b ∈ piece) :
    b ∈ p ∧ b ≠ separator := by
  induction p generalizing piece with
  | nil =>
    obtain rfl := List.mem_singleton.mp h
    exact absurd hb List.not_mem_nil
  | cons c p ih =>
    rw [pieces] at h
    split at h
    · rcases List.mem_cons.mp h with rfl | h
      · exact absurd hb List.not_mem_nil
      · exact ⟨List.mem_cons_of_mem c (ih h hb).1, (ih h hb).2⟩
    · next hc =>
      obtain ⟨first, others, he⟩ := List.exists_cons_of_ne_nil (pieces_ne_nil p)
      rw [he] at h ih
      rcases List.mem_cons.mp h with rfl | h
      · rcases List.mem_cons.mp hb with rfl | hb
        · exact ⟨List.mem_cons_self, hc⟩
        · have := ih List.mem_cons_self hb
          exact ⟨List.mem_cons_of_mem c this.1, this.2⟩
      · have := ih (List.mem_cons_of_mem first h) hb
        exact ⟨List.mem_cons_of_mem c this.1, this.2⟩

theorem isAbsolute_of_not_mem {piece : Bytes} (h : separator ∉ piece) :
    isAbsolute piece = false := by
  cases piece with
  | nil => rfl
  | cons b piece =>
    have hb : b ≠ separator := fun e => h (e ▸ List.mem_cons_self)
    simp [isAbsolute, hb]

/-- What is joined to a path becomes its last piece.  At most an empty piece in
front of it is lost. -/
theorem pieces_join (p : Path) {rest : Path} (h : separator ∉ rest) :
    ∃ before, (p.join rest).pieces = before ++ [rest] ∧
      (p.pieces = before ∨ p.pieces = before ++ [[]]) := by
  rw [join, isAbsolute_of_not_mem h, if_neg Bool.false_ne_true]
  split
  · next hp =>
    rcases hp with rfl | hp
    · exact ⟨[], pieces_of_not_mem h, Or.inr rfl⟩
    · obtain ⟨above, rfl⟩ := List.getLast?_eq_some_iff.mp hp
      refine ⟨pieces above, ?_, Or.inr ?_⟩
      · rw [List.append_assoc, List.singleton_append, pieces_append_separator, pieces_of_not_mem h]
      · rw [pieces_append_separator]
        rfl
  · exact ⟨p.pieces, by rw [pieces_append_separator, pieces_of_not_mem h], Or.inl rfl⟩

/-! ## The last name -/

theorem fileName?_of_pieces {p : Path} {name : Name} {before after : List Bytes}
    (h : p.pieces = before ++ name.bytes :: after) (hafter : ∀ piece ∈ after, piece = []) :
    p.fileName? = some name.bytes := by
  obtain ⟨hnil, hdot, hdots, -, -⟩ := name.valid
  have hrest : after.filter (fun piece => piece ≠ [] ∧ piece ≠ dot) = [] :=
    List.filter_eq_nil_iff.mpr fun piece hp => by simp [hafter piece hp]
  have hnames : p.names.getLast? = some name.bytes := by
    rw [names, h, List.filter_append, List.filter_cons_of_pos (by simp [hnil, hdot]), hrest,
      List.getLast?_concat]
  rw [fileName?, hnames, Option.filter_some, if_pos (by simpa using hdots)]

theorem fileName?_join (p : Path) (name : Name) :
    (p.join name.bytes).fileName? = some name.bytes := by
  obtain ⟨before, h, -⟩ := pieces_join p name.valid.2.2.2.1
  exact fileName?_of_pieces h fun _ hp => absurd hp List.not_mem_nil

theorem bytes_of_ofBytes? {piece : Bytes} {name : Name} (h : Name.ofBytes? piece = some name) :
    name.bytes = piece := by
  rw [Name.ofBytes?] at h
  split at h
  · cases h
    rfl
  · cases h

theorem bytes_of_ofPiece? {piece : Bytes} {name : Name}
    (h : Hop.ofPiece? piece = some (.into name)) : name.bytes = piece := by
  rw [Hop.ofPiece?] at h
  split at h
  · cases h
  · split at h
    · cases h
    · obtain ⟨found, hfound, he⟩ := Option.map_eq_some_iff.mp h
      cases he
      exact bytes_of_ofBytes? hfound

/-- Without a zero byte in the path, a walk passes over empty pieces alone. -/
theorem eq_nil_of_ofPiece? {p piece : Bytes} (h0 : 0 ∉ p) (hp : piece ∈ pieces p)
    (h : Hop.ofPiece? piece = none) : piece = [] := by
  refine Decidable.byContradiction fun hne => ?_
  have hsep : separator ∉ piece := fun hb => (mem_of_mem_pieces hp hb).2 rfl
  have hzero : 0 ∉ piece := fun hb => h0 (mem_of_mem_pieces hp hb).1
  rw [Hop.ofPiece?] at h
  split at h
  · cases h
  · next hdot =>
    split at h
    · cases h
    · next hdots =>
      rw [Name.ofBytes?, dif_pos ⟨hne, hdot, hdots, hsep, hzero⟩] at h
      cases h

/-- The name that a walk goes into at its end is the last one of the path. -/
theorem fileName?_of_hops {p : Path} (h0 : 0 ∉ p) {name : Name}
    (h : p.hops.getLast? = some (.into name)) : p.fileName? = some name.bytes := by
  rw [hops] at h
  split at h
  · rw [List.getLast?_concat] at h
    cases h
  · rw [List.append_nil] at h
    obtain ⟨moves, hmoves⟩ := List.getLast?_eq_some_iff.mp h
    obtain ⟨before, rest, hpieces, -, hrest⟩ := List.filterMap_eq_append_iff.mp hmoves
    obtain ⟨passed, piece, after, rfl, -, hpiece, hafter⟩ := List.filterMap_eq_cons_iff.mp hrest
    rw [← bytes_of_ofPiece? hpiece, ← List.append_assoc] at hpieces
    refine fileName?_of_pieces hpieces fun q hq => ?_
    have hmem : q ∈ p.pieces := by
      rw [hpieces]
      exact List.mem_append_right _ (List.mem_cons_of_mem _ hq)
    exact eq_nil_of_ofPiece? h0 hmem (List.filterMap_eq_nil_iff.mp hafter q hq)

/-! ## Moves -/

/-- What the pieces of a path ask for.  A separator at its end adds a hop to that. -/
def moves (p : Path) : List Hop := p.pieces.filterMap Hop.ofPiece?

theorem ne_close_of_mem_moves {p : Path} {hop : Hop} (h : hop ∈ p.moves) : hop ≠ .close := by
  obtain ⟨piece, -, hpiece⟩ := List.mem_filterMap.mp h
  rintro rfl
  rw [Hop.ofPiece?] at hpiece
  split at hpiece
  · cases hpiece
  · split at hpiece
    · cases hpiece
    · obtain ⟨name, -, hname⟩ := Option.map_eq_some_iff.mp hpiece
      cases hname

theorem filter_moves (p : Path) : p.moves.filter (· ≠ .close) = p.moves :=
  List.filter_eq_self.mpr fun _ hmem => decide_eq_true (ne_close_of_mem_moves hmem)

/-- The hops of the pieces come first, and behind them at most those of a separator. -/
theorem hops_eq (p : Path) :
    ∃ closes, p.hops = p.hops.filter (· ≠ .close) ++ closes ∧ ∀ hop ∈ closes, hop = .close := by
  show ∃ closes, p.moves ++ _ = (p.moves ++ _).filter (· ≠ .close) ++ closes ∧ _
  split
  · refine ⟨[.close], ?_, fun hop hmem => List.mem_singleton.mp hmem⟩
    rw [List.filter_append, filter_moves]
    simp
  · refine ⟨[], ?_, fun hop hmem => absurd hmem List.not_mem_nil⟩
    rw [List.append_nil, List.append_nil, filter_moves]

end Path
end SimReport
