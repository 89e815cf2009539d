/-
The results of a run: one row per log file, in the order in which the files were
first recorded.  Recording a file again replaces its metrics and keeps its place.
-/
import SimReport.Keyed
import SimReport.Metrics

namespace SimReport

/-- A benchmark is named by its log file without the last four characters,
whatever they are.  A shorter name leaves nothing. -/
def benchmarkId (fileName : Text) : Text := fileName.take (fileName.length - 4)

@[simp] theorem benchmarkId_append (id : Text) {tail : Text} (h : tail.length = 4) :
    benchmarkId (id ++ tail) = id := by
  simp [benchmarkId, h]

structure Row where
  fileName : Text
  metrics : Metrics
  deriving DecidableEq

def Row.id (row : Row) : Text := benchmarkId row.fileName

def Row.succeeded (row : Row) : Bool := row.metrics.succeeded

/-- File names are the keys of the table. -/
structure Results where
  rows : List Row
  nodup : (rows.map Row.fileName).Nodup

namespace Results

def empty : Results := ⟨[], List.nodup_nil⟩

def insert (results : Results) (row : Row) : Results :=
  ⟨Keyed.store Row.fileName row results.rows, Keyed.nodup_keys_store row results.nodup⟩

/-- The table after recording the rows one after another. -/
def insertAll (results : Results) (rows : List Row) : Results := rows.foldl insert results

def size (results : Results) : Nat := results.rows.length

def passed (results : Results) : Nat := results.rows.countP Row.succeeded

@[ext] theorem ext {a b : Results} (h : a.rows = b.rows) : a = b := by
  cases a; cases b; cases h; rfl

@[simp] theorem rows_empty : empty.rows = [] := rfl

@[simp] theorem rows_insert (results : Results) (row : Row) :
    (results.insert row).rows = Keyed.store Row.fileName row results.rows := rfl

end Results
end SimReport
