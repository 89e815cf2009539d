/-
Reading a report file back.

What a record holds is said by the titles of the header and not by places, so
that a number under a wrong title would be seen.  The counts stand as they were
measured, and each of the three sums is the sum of the numbers that stand in the
same record.  Sums are never reduced, so they are right for the largest words too.

The main theorem, `decode_text`, says that a reader finds the header and then one
record for each row, and that nothing the file shows of a row is lost in it.
-/
import Mathlib.Data.List.Forall2
import SimReport.Csv.Reader
import SimReport.Proofs.Text.Numeral
import SimReport.ReportFile

namespace SimReport

/-- All that a report file shows of a row.  The quotient of two counts follows
from them, and so do the sums. -/
def Row.figures (row : Row) : Text × Bool × Counters :=
  (row.id, row.succeeded, row.metrics.counters)

namespace ReportFile

/-! ## Columns -/

def title : Counter → Text
  | .instructions => "Instructions".toList
  | .cycles => "Cycles".toList
  | .jumps => "Jumps".toList
  | .branches => "Branches".toList
  | .loads => "Loads".toList
  | .stores => "Stores".toList
  | .instructionFetches => "Instruction fetches".toList
  | .writeRequests => "Write Requests".toList
  | .readRequests => "Read Requests".toList

/-- A column with the sum of others. -/
inductive Total
  | controlTransfers
  | dataAccesses
  | memoryRequests
  deriving DecidableEq

namespace Total

def title : Total → Text
  | controlTransfers => "Branch/Jump Instructions".toList
  | dataAccesses => "Load/Store Instructions".toList
  | memoryRequests => "Memory Requests".toList

def parts : Total → List Counter
  | controlTransfers => [.jumps, .branches]
  | dataAccesses => [.loads, .stores]
  | memoryRequests => [.instructionFetches, .readRequests, .writeRequests]

end Total

/-- What stands in a record under a title of the header. -/
def cell? (title : Text) (record : List Text) : Option Text := record[header.idxOf title]?

def number? (title : Text) (record : List Text) : Option Nat :=
  (cell? title record).bind (Text.natural? .decimal)

/-- The record says of the row what its columns are for.  A sum is that of the
numbers which can be read in the record itself. -/
structure Describes (row : Row) (record : List Text) : Prop where
  id : cell? "Benchmark".toList record = some row.id
  status : cell? "Status".toList record =
    some (if row.metrics.exitCode = some 0 then "true".toList else "false".toList)
  count (c : Counter) :
    cell? (title c) record = some (Text.ofNat (row.metrics.counters.get c).toNat)
  ipc : cell? "IPC".toList record = some row.metrics.ipc.toFixed
  total (t : Total) : ∃ ns : List Nat,
    t.parts.map (fun c => number? (title c) record) = ns.map some ∧
      cell? t.title record = some (Text.ofNat ns.sum)

theorem cell?_count (row : Row) (c : Counter) :
    cell? (title c) (record row) = some (Text.ofNat (row.metrics.counters.get c).toNat) := by
  cases c <;> rfl

theorem number?_count (row : Row) (c : Counter) :
    number? (title c) (record row) = some (row.metrics.counters.get c).toNat := by
  rw [number?, cell?_count, Option.bind_some, Text.natural?_ofNat]

theorem cell?_total (row : Row) (t : Total) :
    cell? t.title (record row) =
      some (Text.ofNat (t.parts.map fun c => (row.metrics.counters.get c).toNat).sum) := by
  cases t with
  | controlTransfers => rfl
  | dataAccesses => rfl
  | memoryRequests =>
    -- The source adds up from the left, a list is summed from the right.
    have hsum : ∀ x y z : Nat, [x, y, z].sum = x + y + z := by
      intro x y z
      simp only [List.sum_cons, List.sum_nil]
      omega
    rw [Total.parts, List.map_cons, List.map_cons, List.map_cons, List.map_nil, hsum]
    rfl

theorem describes_record (row : Row) : Describes row (record row) := by
  refine ⟨rfl, ?_, cell?_count row, rfl, ?_⟩
  · show some (statusText row.metrics.succeeded) = _
    simp only [statusText, Metrics.succeeded_iff]
  · intro t
    refine ⟨t.parts.map fun c => (row.metrics.counters.get c).toNat, ?_, cell?_total row t⟩
    rw [List.map_map]
    apply List.map_congr_left
    intro c _
    exact number?_count row c

/-! ## Records -/

theorem statusText_injective : Function.Injective statusText := by
  intro a b h
  cases a <;> cases b <;> first | rfl | exact absurd h (by decide)

/-- A record tells as much as the figures, and no more. -/
theorem record_eq_iff {a b : Row} : record a = record b ↔ a.figures = b.figures := by
  constructor
  · intro h
    have hid : cell? "Benchmark".toList (record a) = cell? "Benchmark".toList (record b) := by rw [h]
    have hstatus : cell? "Status".toList (record a) = cell? "Status".toList (record b) := by rw [h]
    have hcounters : a.metrics.counters = b.metrics.counters := by
      apply Counters.ext_get
      intro c
      have hc := number?_count a c
      rw [h, number?_count] at hc
      exact UInt64.toNat_inj.mp (Option.some.inj hc).symm
    rw [Row.figures, Row.figures, hcounters, show a.id = b.id from Option.some.inj hid,
      statusText_injective (Option.some.inj hstatus)]
  · intro h
    obtain ⟨hid, hrest⟩ := Prod.mk.inj h
    obtain ⟨hstatus, hcounters⟩ := Prod.mk.inj hrest
    simp only [record, hid, hstatus, hcounters, Metrics.ipc, Metrics.controlTransfers,
      Metrics.dataAccesses, Metrics.memoryRequests]

theorem map_record_eq_iff {rows others : List Row} :
    rows.map record = others.map record ↔ rows.map Row.figures = others.map Row.figures := by
  induction rows generalizing others with
  | nil => simp only [List.map_nil, List.nil_eq, List.map_eq_nil_iff]
  | cons row rows ih =>
    cases others with
    | nil => simp only [List.map_cons, List.map_nil, reduceCtorEq]
    | cons other others => simp only [List.map_cons, List.cons.injEq, record_eq_iff, ih]

/-! ## The file -/

theorem decode_text_eq (results : Results) :
    Csv.decode? (text results) = some (header :: results.rows.map record) := by
  apply Csv.decode_encode
  intro fields hf
  rcases List.mem_cons.mp hf with rfl | hf
  · exact List.cons_ne_nil _ _
  · obtain ⟨row, -, rfl⟩ := List.mem_map.mp hf
    exact List.cons_ne_nil _ _

theorem lengths_records (rows : List Row) :
    (header :: rows.map record).map List.length = List.replicate (1 + rows.length) 15 := by
  have hrecord : List.length ∘ record = fun _ => 15 := rfl
  rw [List.map_cons, List.map_map, hrecord, List.map_const', Nat.add_comm, List.replicate_succ]
  rfl

theorem forall₂_describes (rows : List Row) : List.Forall₂ Describes rows (rows.map record) := by
  rw [List.forall₂_map_right_iff, List.forall₂_same]
  intro row _
  exact describes_record row

/-- A reader finds the header and a record for each row in table order, fifteen
fields in each.  Two tables have the same file exactly if they show the same
identifiers, statuses and counters row by row. -/
theorem decode_text (results : Results) :
    (∃ records, Csv.decode? (text results) = some (header :: records) ∧
      (header :: records).map List.length = List.replicate (1 + results.size) 15 ∧
      List.Forall₂ Describes results.rows records) ∧
    ∀ other : Results, text results = text other ↔
      results.rows.map Row.figures = other.rows.map Row.figures := by
  constructor
  · exact ⟨results.rows.map record, decode_text_eq results, lengths_records results.rows,
      forall₂_describes results.rows⟩
  · intro other
    rw [← map_record_eq_iff]
    constructor
    · intro h
      have hread := decode_text_eq results
      rw [h, decode_text_eq] at hread
      exact (List.cons.inj (Option.some.inj hread)).2.symm
    · intro h
      rw [text, text, h]

/-- Two of the largest words, under a name that would break a record. -/
example :
    Csv.decode? (text ⟨[⟨"a,\"b\"\r\n.log".toList,
        { counters := { jumps := 18446744073709551615, branches := 18446744073709551615 } }⟩],
      by decide⟩) =
      some [header, ["a,\"b\"\r\n", "false", "0", "0", "0.00", "18446744073709551615",
        "18446744073709551615", "36893488147419103230", "0", "0", "0", "0", "0", "0",
        "0"].map String.toList] := by
  decide +kernel

end ReportFile
end SimReport
