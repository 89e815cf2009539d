/-
The table that many records leave.

A record with a new name adds a row at the end, and one with a known name takes
the place of the row that is there.  So the table has as many rows as there were
records exactly if their names are different, and it then holds the records as
they came.  Otherwise the last record of a name hides those before it.
-/
import SimReport.Proofs.Keyed
import SimReport.Results

namespace SimReport

namespace Results

def fileNames (results : Results) : List Text := results.rows.map Row.fileName

theorem insertAll_cons (results : Results) (row : Row) (rows : List Row) :
    results.insertAll (row :: rows) = (results.insert row).insertAll rows := rfl

theorem size_insert_of_mem {results : Results} {row : Row} (h : row.fileName ∈ results.fileNames) :
    (results.insert row).size = results.size :=
  Keyed.length_store_of_mem h

theorem rows_insert_of_not_mem {results : Results} {row : Row}
    (h : row.fileName ∉ results.fileNames) : (results.insert row).rows = results.rows ++ [row] :=
  Keyed.store_of_not_mem h

theorem fileNames_insert_of_not_mem {results : Results} {row : Row}
    (h : row.fileName ∉ results.fileNames) :
    (results.insert row).fileNames = results.fileNames ++ [row.fileName] := by
  rw [fileNames, rows_insert_of_not_mem h, List.map_append, List.map_singleton]
  rfl

theorem fileNames_insert (results : Results) (row : Row) :
    (results.insert row).fileNames =
      if row.fileName ∈ results.fileNames then results.fileNames
      else results.fileNames ++ [row.fileName] := by
  split
  · next h => exact Keyed.map_key_store_of_mem h
  · next h => exact fileNames_insert_of_not_mem h

theorem mem_fileNames_insertAll {results : Results} {rows : List Row} {name : Text} :
    name ∈ (results.insertAll rows).fileNames ↔
      name ∈ results.fileNames ∨ name ∈ rows.map Row.fileName := by
  induction rows generalizing results with
  | nil => simp [insertAll]
  | cons row rows ih =>
    have hinsert : name ∈ (results.insert row).fileNames ↔
        name ∈ results.fileNames ∨ name = row.fileName := by
      rw [fileNames_insert]
      split
      · next h =>
        refine ⟨Or.inl, fun hname => hname.elim (fun hmem => hmem) fun heq => heq ▸ h⟩
      · rw [List.mem_append, List.mem_singleton]
    rw [insertAll_cons, ih, hinsert, List.map_cons, List.mem_cons, or_assoc]

theorem size_insert_of_not_mem {results : Results} {row : Row}
    (h : row.fileName ∉ results.fileNames) : (results.insert row).size = results.size + 1 := by
  rw [size, rows_insert_of_not_mem h, List.length_append, List.length_singleton]
  rfl

theorem size_insertAll_le (results : Results) (rows : List Row) :
    (results.insertAll rows).size ≤ results.size + rows.length := by
  induction rows generalizing results with
  | nil => exact Nat.le_refl _
  | cons row rows ih =>
    have hrest := ih (results.insert row)
    rw [insertAll_cons, List.length_cons]
    by_cases h : row.fileName ∈ results.fileNames
    · rw [size_insert_of_mem h] at hrest
      omega
    · rw [size_insert_of_not_mem h] at hrest
      omega

theorem rows_insertAll_of_nodup (results : Results) {rows : List Row}
    (h : (results.fileNames ++ rows.map Row.fileName).Nodup) :
    (results.insertAll rows).rows = results.rows ++ rows := by
  induction rows generalizing results with
  | nil => rw [List.append_nil]; rfl
  | cons row rows ih =>
    have hnew : row.fileName ∉ results.fileNames := fun hmem =>
      (List.nodup_append.mp h).2.2 _ hmem _ List.mem_cons_self rfl
    rw [List.map_cons, ← List.singleton_append, ← List.append_assoc,
      ← fileNames_insert_of_not_mem hnew] at h
    rw [insertAll_cons, ih _ h, rows_insert_of_not_mem hnew, List.append_assoc,
      List.singleton_append]

theorem nodup_of_size_insertAll (results : Results) {rows : List Row}
    (h : (results.insertAll rows).size = results.size + rows.length) :
    (results.fileNames ++ rows.map Row.fileName).Nodup := by
  induction rows generalizing results with
  | nil =>
    rw [List.map_nil, List.append_nil]
    exact results.nodup
  | cons row rows ih =>
    have hrest := size_insertAll_le (results.insert row) rows
    rw [insertAll_cons, List.length_cons] at h
    by_cases hmem : row.fileName ∈ results.fileNames
    · rw [size_insert_of_mem hmem] at hrest
      omega
    · have hnodup := ih (results.insert row) (by rw [size_insert_of_not_mem hmem]; omega)
      rw [fileNames_insert_of_not_mem hmem, List.append_assoc] at hnodup
      exact hnodup

theorem size_insertAll_empty_iff (rows : List Row) :
    (empty.insertAll rows).size = rows.length ↔ (rows.map Row.fileName).Nodup := by
  constructor
  · intro h
    exact nodup_of_size_insertAll empty (h.trans (Nat.zero_add _).symm)
  · intro h
    rw [size, rows_insertAll_of_nodup empty h, rows_empty, List.nil_append]

theorem find?_insertAll (results : Results) (rows : List Row) (name : Text) :
    Keyed.find? Row.fileName name (results.insertAll rows).rows =
      (Keyed.find? Row.fileName name rows.reverse).or
        (Keyed.find? Row.fileName name results.rows) := by
  induction rows generalizing results with
  | nil => rfl
  | cons row rows ih =>
    rw [insertAll_cons, ih, rows_insert, Keyed.find?_store, List.reverse_cons, Keyed.find?,
      Keyed.find?, Keyed.find?, List.find?_append, Option.or_assoc]
    congr 1
    by_cases hname : name = row.fileName
    · simp [hname]
    · simp [hname, Ne.symm hname]

theorem mem_rows_of_mem_insertAll {results : Results} {rows : List Row} {row : Row}
    (h : row ∈ (results.insertAll rows).rows) : row ∈ results.rows ∨ row ∈ rows := by
  induction rows generalizing results with
  | nil => exact Or.inl h
  | cons other rows ih =>
    rw [insertAll_cons] at h
    rcases ih h with hrow | hrow
    · rw [rows_insert, Keyed.mem_store_iff results.nodup] at hrow
      rcases hrow with rfl | ⟨hrow, -⟩
      · exact Or.inr List.mem_cons_self
      · exact Or.inl hrow
    · exact Or.inr (List.mem_cons_of_mem other hrow)

end Results
end SimReport
