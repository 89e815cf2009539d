/-
Reading the dialect back.  The reader takes one character at a time and knows
where in a record it is.  The main theorem, `decode_encode`, says that what is
read is what was written, whatever characters the fields hold.
-/
import SimReport.Csv

namespace SimReport
namespace Csv

/-- The place of the next character.  After a quote inside quotes the field may
be over. -/
inductive Mode
  | recordStart
  | fieldStart
  | plain
  | quoted
  | afterQuote
  deriving DecidableEq

/-- The records, the fields of the record and the characters of the field that
have been read. -/
structure Reader where
  mode : Mode := .recordStart
  field : Text := []
  fields : List Text := []
  records : List (List Text) := []
  deriving DecidableEq

namespace Reader

def keep (r : Reader) (mode : Mode) (c : Char) : Reader :=
  { r with mode, field := r.field ++ [c] }

/-- Takes a comma or the end of a record after a field. -/
def close? (r : Reader) (c : Char) : Option Reader :=
  if c = ',' then
    some { r with mode := .fieldStart, field := [], fields := r.fields ++ [r.field] }
  else if c = '\n' then
    some { mode := .recordStart, records := r.records ++ [r.fields ++ [r.field]] }
  else none

/-- Takes one character.  Quotes may only surround a whole field. -/
def step? (r : Reader) (c : Char) : Option Reader :=
  match r.mode with
  | .recordStart | .fieldStart =>
    if c = '"' then some { r with mode := .quoted }
    else if needsQuotes [c] then r.close? c
    else some (r.keep .plain c)
  | .plain =>
    if needsQuotes [c] then r.close? c else some (r.keep .plain c)
  | .quoted =>
    if c = '"' then some { r with mode := .afterQuote } else some (r.keep .quoted c)
  | .afterQuote =>
    if c = '"' then some (r.keep .quoted c) else r.close? c

end Reader

/-- The records of a text, every one of which must be ended. -/
def decode? (t : Text) : Option (List (List Text)) :=
  (t.foldlM Reader.step? {}).bind fun r => if r.mode = .recordStart then some r.records else none

theorem needsQuotes_cons (c : Char) (t : Text) :
    needsQuotes (c :: t) = (needsQuotes [c] || needsQuotes t) := by
  simp [needsQuotes]

theorem foldlM_double (t : Text) (r : Reader) (h : r.mode = .quoted) :
    (double t).foldlM Reader.step? r = some { r with field := r.field ++ t } := by
  induction t generalizing r with
  | nil => simp [double]
  | cons c t ih =>
    by_cases hc : c = '"'
    · subst hc
      have e : double ('"' :: t) = '"' :: '"' :: double t := rfl
      have h1 : r.step? '"' = some { r with mode := .afterQuote } := by simp [Reader.step?, h]
      have h2 : ({ r with mode := .afterQuote } : Reader).step? '"' =
        some { r with field := r.field ++ ['"'] } := by simp [Reader.step?, Reader.keep, h]
      rw [e, List.foldlM_cons, h1]
      simp only [Option.bind_eq_bind, Option.bind_some]
      rw [List.foldlM_cons, h2]
      simp only [Option.bind_eq_bind, Option.bind_some]
      rw [ih { r with field := r.field ++ ['"'] } h]
      simp
    · have e : double (c :: t) = c :: double t := by simp [double, hc]
      have h1 : r.step? c = some { r with field := r.field ++ [c] } := by
        simp [Reader.step?, Reader.keep, h, hc]
      rw [e, List.foldlM_cons, h1]
      simp only [Option.bind_eq_bind, Option.bind_some]
      rw [ih { r with field := r.field ++ [c] } h]
      simp

theorem foldlM_plain (t : Text) (r : Reader) (h : r.mode = .plain) (ht : needsQuotes t = false) :
    t.foldlM Reader.step? r = some { r with field := r.field ++ t } := by
  induction t generalizing r with
  | nil => simp
  | cons c t ih =>
    rw [needsQuotes_cons, Bool.or_eq_false_iff] at ht
    have h1 : r.step? c = some { r with field := r.field ++ [c] } := by
      simp [Reader.step?, Reader.keep, h, ht.1]
    rw [List.foldlM_cons, h1]
    simp only [Option.bind_eq_bind, Option.bind_some]
    rw [ih { r with field := r.field ++ [c] } h ht.2]
    simp

theorem foldlM_encodeField (f : Text) (r : Reader) (c : Char)
    (hmode : r.mode = .recordStart ∨ r.mode = .fieldStart) (hfield : r.field = [])
    (hc : c = ',' ∨ c = '\n') :
    (encodeField f ++ [c]).foldlM Reader.step? r = ({ r with field := f } : Reader).close? c := by
  have hquote : c ≠ '"' := by rcases hc with rfl | rfl <;> decide
  have hneeds : needsQuotes [c] = true := by rcases hc with rfl | rfl <;> decide
  have hclose : ∀ m : Mode, ({ r with mode := m, field := f } : Reader).close? c =
      ({ r with field := f } : Reader).close? c := by
    intro m; rcases hc with rfl | rfl <;> rfl
  unfold encodeField
  split
  · have hopen : r.step? '"' = some { r with mode := .quoted } := by
      rcases hmode with h | h <;> simp [Reader.step?, h]
    rw [List.cons_append, List.cons_append, List.foldlM_cons, hopen]
    simp only [Option.bind_eq_bind, Option.bind_some]
    rw [List.append_assoc, List.foldlM_append, foldlM_double f _ rfl]
    simp only [Option.bind_eq_bind, Option.bind_some, List.cons_append, List.nil_append,
      List.foldlM_cons, List.foldlM_nil, Reader.step?, if_true, if_neg hquote, hfield]
    rw [hclose .afterQuote]
    cases ({ r with field := f } : Reader).close? c <;> rfl
  · next hf =>
    have hf : needsQuotes f = false := by simpa using hf
    cases f with
    | nil =>
      have hr : ({ r with field := [] } : Reader) = r := by cases r; cases hfield; rfl
      have h1 : r.step? c = r.close? c := by
        rcases hmode with h | h <;> simp [Reader.step?, h, hquote, hneeds]
      rw [hr, List.nil_append, List.foldlM_cons, h1]
      cases r.close? c <;> rfl
    | cons x f =>
      rw [needsQuotes_cons, Bool.or_eq_false_iff] at hf
      have hx : x ≠ '"' := by rintro rfl; exact absurd hf.1 (by decide)
      have hopen : r.step? x = some { r with mode := .plain, field := [x] } := by
        rcases hmode with h | h <;> simp [Reader.step?, h, hx, hf.1, Reader.keep, hfield]
      rw [List.cons_append, List.foldlM_cons, hopen]
      simp only [Option.bind_eq_bind, Option.bind_some]
      rw [List.foldlM_append, foldlM_plain f _ rfl hf.2]
      simp only [Option.bind_eq_bind, Option.bind_some, List.foldlM_cons, List.foldlM_nil,
        Reader.step?, hneeds, if_true, List.cons_append, List.nil_append]
      rw [hclose .plain]
      cases ({ r with field := x :: f } : Reader).close? c <;> rfl

theorem encodeRecord_singleton (f : Text) : encodeRecord [f] = encodeField f ++ ['\n'] := by
  simp [encodeRecord, Text.joinWith]

theorem encodeRecord_cons (f g : Text) (fields : List Text) :
    encodeRecord (f :: g :: fields) = encodeField f ++ [','] ++ encodeRecord (g :: fields) := by
  simp [encodeRecord, Text.joinWith]

theorem foldlM_encodeRecord (record : List Text) (hne : record ≠ []) (r : Reader)
    (hmode : r.mode = .recordStart ∨ r.mode = .fieldStart) (hfield : r.field = []) :
    (encodeRecord record).foldlM Reader.step? r =
      some { records := r.records ++ [r.fields ++ record] } := by
  induction record generalizing r with
  | nil => exact absurd rfl hne
  | cons f record ih =>
    cases record with
    | nil =>
      rw [encodeRecord_singleton, foldlM_encodeField f r '\n' hmode hfield (.inr rfl)]
      simp [Reader.close?]
    | cons g record =>
      rw [encodeRecord_cons, List.foldlM_append,
        foldlM_encodeField f r ',' hmode hfield (.inl rfl)]
      have hcomma : ({ r with field := f } : Reader).close? ',' =
        some { r with mode := .fieldStart, field := [], fields := r.fields ++ [f] } := rfl
      rw [hcomma]
      simp only [Option.bind_eq_bind, Option.bind_some]
      rw [ih (List.cons_ne_nil g record) _ (.inr rfl) rfl]
      simp

theorem foldlM_encode (records : List (List Text)) (h : ∀ record ∈ records, record ≠ [])
    (done : List (List Text)) :
    (encode records).foldlM Reader.step? { records := done } =
      some { records := done ++ records } := by
  induction records generalizing done with
  | nil => simp
  | cons record records ih =>
    rw [encode_cons, List.foldlM_append,
      foldlM_encodeRecord record (h record List.mem_cons_self) _ (.inl rfl) rfl]
    simp only [Option.bind_eq_bind, Option.bind_some, List.nil_append]
    rw [ih (fun x hx => h x (List.mem_cons_of_mem record hx))]
    simp

/-- What is read is what was written. -/
theorem decode_encode (records : List (List Text)) (h : ∀ record ∈ records, record ≠ []) :
    decode? (encode records) = some records := by
  unfold decode?
  rw [foldlM_encode records h []]
  simp

end Csv
end SimReport
