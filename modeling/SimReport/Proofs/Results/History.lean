/-
What a table remembers of the records that made it.

Of each name the table has one row.  It stands where the name was first recorded,
and it is the row that was recorded last, whole: nothing of an earlier row of that
name is left in it (`mem_rows_insertAll_iff`).  The rows, and the ones among them
that succeeded, are counted by name accordingly (`insertAll_history`).

Recording again what the table has already changes nothing, in whatever order and
however often it is done.
-/
import Mathlib.Data.Set.Card
import SimReport.Proofs.Results

namespace SimReport

/-- The row is the last of its name among the rows. -/
def Row.Latest (rows : List Row) (row : Row) : Prop :=
  ∃ before after, rows = before ++ row :: after ∧ row.fileName ∉ after.map Row.fileName

theorem Row.latest_concat_iff {rows : List Row} {last row : Row} :
    Row.Latest (rows ++ [last]) row ↔
      row = last ∨ Row.Latest rows row ∧ row.fileName ≠ last.fileName := by
  constructor
  · rintro ⟨before, after, heq, hafter⟩
    obtain rfl | ⟨after, other, rfl⟩ := List.eq_nil_or_concat' after
    · obtain ⟨-, hlast⟩ := List.append_inj' heq rfl
      exact Or.inl (List.cons.inj hlast).1.symm
    · rw [← List.cons_append, ← List.append_assoc] at heq
      obtain ⟨rfl, hlast⟩ := List.append_inj' heq rfl
      obtain rfl := (List.cons.inj hlast).1
      rw [List.map_append, List.mem_append, not_or] at hafter
      exact Or.inr ⟨⟨before, after, rfl, hafter.1⟩, fun e => hafter.2 (List.mem_singleton.mpr e)⟩
  · rintro (rfl | ⟨⟨before, after, rfl, hafter⟩, hne⟩)
    · exact ⟨rows, [], rfl, List.not_mem_nil⟩
    · refine ⟨before, after ++ [last], ?_, ?_⟩
      · rw [List.append_assoc, List.cons_append]
      · rw [List.map_append, List.mem_append, not_or]
        exact ⟨hafter, fun h => hne (List.mem_singleton.mp h)⟩

namespace Results

theorem insertAll_concat (results : Results) (rows : List Row) (row : Row) :
    results.insertAll (rows ++ [row]) = (results.insertAll rows).insert row :=
  List.foldl_append

theorem fileNames_insertAll_empty (rows : List Row) :
    (empty.insertAll rows).fileNames = (rows.map Row.fileName).eraseDups := by
  induction rows using List.reverseRecOn with
  | nil => rfl
  | append_singleton rows row ih =>
    rw [insertAll_concat, fileNames_insert, ih, List.map_append, List.map_singleton]
    simp only [List.mem_eraseDups]
    split
    · next h => exact (Keyed.eraseDups_concat_of_mem h).symm
    · next h => exact (Keyed.eraseDups_concat_of_not_mem h).symm

/-- The rows of the table are the last ones of their names. -/
theorem mem_rows_insertAll_iff (rows : List Row) {row : Row} :
    row ∈ (empty.insertAll rows).rows ↔ Row.Latest rows row := by
  induction rows using List.reverseRecOn with
  | nil => simp [Row.Latest, insertAll]
  | append_singleton rows last ih =>
    rw [insertAll_concat, rows_insert, Keyed.mem_store_iff (empty.insertAll rows).nodup, ih,
      Row.latest_concat_iff]

theorem insertAll_of_subset (results : Results) {rows : List Row} (h : rows ⊆ results.rows) :
    results.insertAll rows = results := by
  induction rows with
  | nil => rfl
  | cons row rows ih =>
    obtain ⟨hrow, hrest⟩ := List.cons_subset.mp h
    have hfound := Keyed.find?_eq_some_of_mem results.nodup hrow
    have hsame : results.insert row = results :=
      Results.ext (Keyed.store_of_find?_eq_some hfound)
    rw [insertAll_cons, hsame, ih hrest]

/-- Rows of different names are all in the table that records them. -/
theorem subset_rows_insertAll (results : Results) {rows : List Row}
    (h : (rows.map Row.fileName).Nodup) : rows ⊆ (results.insertAll rows).rows := by
  intro row hrow
  have hreverse : (rows.reverse.map Row.fileName).Nodup := by
    rw [List.map_reverse]
    exact List.nodup_reverse.mpr h
  have hlast := Keyed.find?_eq_some_of_mem hreverse (List.mem_reverse.mpr hrow)
  have hfound := results.find?_insertAll rows row.fileName
  rw [hlast, Option.some_or] at hfound
  exact List.mem_of_find?_eq_some hfound

theorem getElem?_insertAll_of_not_mem (results : Results) {rows : List Row} {i : Nat} {row : Row}
    (h : results.rows[i]? = some row) (hname : row.fileName ∉ rows.map Row.fileName) :
    (results.insertAll rows).rows[i]? = some row := by
  induction rows generalizing results with
  | nil => exact h
  | cons other rows ih =>
    rw [List.map_cons, List.mem_cons, not_or] at hname
    rw [insertAll_cons]
    exact ih (results.insert other) (Keyed.getElem?_store_of_ne h hname.1) hname.2

theorem size_eq_length_fileNames (results : Results) :
    results.size = results.fileNames.length := by
  rw [size, fileNames, List.length_map]

theorem size_insertAll_empty (rows : List Row) :
    (empty.insertAll rows).size = (rows.map Row.fileName).toFinset.card := by
  have hnames : (rows.map Row.fileName).toFinset =
      (empty.insertAll rows).fileNames.toFinset := by
    ext name
    rw [List.mem_toFinset, List.mem_toFinset, fileNames_insertAll_empty, List.mem_eraseDups]
  have hnodup : (empty.insertAll rows).fileNames.Nodup := (empty.insertAll rows).nodup
  rw [hnames, List.toFinset_card_of_nodup hnodup, size_eq_length_fileNames]

/-- The rows that succeeded, counted by name. -/
theorem passed_eq_ncard (results : Results) :
    results.passed = {name | ∃ row ∈ results.rows, row.fileName = name ∧
      row.metrics.exitCode = some 0}.ncard := by
  have hnames : {name | ∃ row ∈ results.rows, row.fileName = name ∧
      row.metrics.exitCode = some 0} =
        (((results.rows.filter Row.succeeded).map Row.fileName).toFinset : Set Text) := by
    ext name
    simp only [Set.mem_ofPred_eq, List.coe_toFinset, List.mem_map, List.mem_filter, Row.succeeded,
      Metrics.succeeded_iff]
    constructor
    · rintro ⟨row, hrow, hname, hzero⟩
      exact ⟨row, ⟨hrow, hzero⟩, hname⟩
    · rintro ⟨row, ⟨hrow, hzero⟩, hname⟩
      exact ⟨row, hrow, hname, hzero⟩
  have hnodup : ((results.rows.filter Row.succeeded).map Row.fileName).Nodup :=
    results.nodup.sublist (List.filter_sublist.map Row.fileName)
  rw [hnames, Set.ncard_coe_finset, List.toFinset_card_of_nodup hnodup, List.length_map, passed,
    List.countP_eq_length_filter]

/-- The names stand in the order in which they were first recorded, each of them once, and each row
is the last one that was recorded under its name.  So the counts are those of the names and of the
names whose last row exited with zero.  Rows that are there already can be recorded again. -/
theorem insertAll_history (rows : List Row) :
    let table := empty.insertAll rows
    -- `List.eraseDups` keeps of each name the first occurrence.
    table.fileNames = (rows.map Row.fileName).eraseDups ∧ table.fileNames.Nodup ∧
      table.size = (rows.map Row.fileName).toFinset.card ∧
      (∀ row, row ∈ table.rows ↔ Row.Latest rows row) ∧
      table.passed = {name | ∃ row, Row.Latest rows row ∧ row.fileName = name ∧
        row.metrics.exitCode = some 0}.ncard ∧
      ∀ more, more ⊆ table.rows → table.insertAll more = table := by
  intro table
  refine ⟨fileNames_insertAll_empty rows, table.nodup, size_insertAll_empty rows,
    fun row => mem_rows_insertAll_iff rows, ?_, fun more => table.insertAll_of_subset⟩
  rw [table.passed_eq_ncard]
  simp only [table, mem_rows_insertAll_iff]

/-- A name whose last row failed, one whose last row succeeded, and a third; then all of them once
more, in another order and one of them twice. -/
theorem insertAll_again :
    let row (name : String) (exitCode : Option UInt64) (cycles : UInt64) : Row :=
      ⟨name.toList, { exitCode, counters := { cycles } }⟩
    let table := empty.insertAll
      [row "b.log" (some 0) 1, row "a.log" none 2, row "c.log" (some 0) 3, row "a.log" (some 0) 0,
        row "b.log" (some 2) 0]
    let more := [row "c.log" (some 0) 3, row "b.log" (some 2) 0, row "c.log" (some 0) 3]
    table.fileNames = ["b.log".toList, "a.log".toList, "c.log".toList] ∧ table.passed = 2 ∧
      more ⊆ table.rows ∧ table.insertAll more = table := by
  intro row table more
  obtain ⟨-, -, -, -, -, hagain⟩ := insertAll_history
    [row "b.log" (some 0) 1, row "a.log" none 2, row "c.log" (some 0) 3, row "a.log" (some 0) 0,
      row "b.log" (some 2) 0]
  have hmore : more ⊆ table.rows := by decide
  exact ⟨by decide, by decide, hmore, hagain more hmore⟩

end Results
end SimReport
