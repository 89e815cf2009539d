/-
The writer of the report file against the text as a whole.

What the file got and what is held back are all that was handed over (`Carries`),
and a file that takes no more has got just the front of it (`Tears`).  So the pieces
in which a record comes have no part in what is stored (`store_of_fits`,
`store_of_not_fits`).  They may have one in what a failure names.  They have none if
the file takes no byte at all (`store_of_full`), and the pieces that fill the buffer
leave it to the length of the text (`kind_store`).
-/
import SimReport.Proofs.FileSystem.Creation
import SimReport.Proofs.ReportFile.Overflow

namespace SimReport

open FileSystem

namespace ReportFile
namespace Writer

variable {fs : FileSystem} {handle : Handle} {bytes : Bytes} {w : Writer}

/-! ## From pieces to records and rows -/

/-- What pieces preserve, or break with, holds of all of them together. -/
theorem foldlM_hold (Holds : Bytes → Writer → Prop) (Breaks : Bytes → Broken → Prop)
    (hstep : ∀ {bytes : Bytes} {w : Writer} (piece : Chunk), Holds bytes w →
      match w.hold piece with
      | .ok next => Holds (bytes ++ piece.bytes) next
      | .error broken => Breaks (bytes ++ piece.bytes) broken)
    (hmore : ∀ {bytes : Bytes} {broken : Broken} (more : Bytes),
      Breaks bytes broken → Breaks (bytes ++ more) broken)
    (h : Holds bytes w) (pieces : List Chunk) :
    match pieces.foldlM hold w with
    | .ok next => Holds (bytes ++ pieces.flatMap Chunk.bytes) next
    | .error broken => Breaks (bytes ++ pieces.flatMap Chunk.bytes) broken := by
  induction pieces generalizing bytes w with
  | nil =>
    rw [List.flatMap_nil, List.append_nil]
    exact h
  | cons piece pieces ih =>
    have hpiece := hstep piece h
    rw [List.foldlM_cons, List.flatMap_cons, ← List.append_assoc]
    cases hnext : w.hold piece with
    | error broken =>
      rw [hnext] at hpiece
      exact hmore _ hpiece
    | ok next =>
      rw [hnext] at hpiece
      exact ih hpiece

/-- What records preserve, rows preserve up to the first with which it breaks. -/
theorem writeRows_cases {cut : Cut} (Holds : Bytes → Writer → Prop)
    (Breaks : Bytes → Broken → Prop)
    (hstep : ∀ {bytes : Bytes} {w : Writer} (fields : List Text), Holds bytes w →
      match w.writeRecord cut fields with
      | .ok next => Holds (bytes ++ (Csv.encodeRecord fields).toBytes) next
      | .error broken => Breaks (bytes ++ (Csv.encodeRecord fields).toBytes) broken)
    (h : Holds bytes w) (rows : List Row) :
    match w.writeRows cut rows with
    | .ok next => Holds (bytes ++ (Csv.encode (rows.map record)).toBytes) next
    | .error (activity, broken) =>
      ∃ before row after, rows = before ++ row :: after ∧ activity = .writeRow row.id ∧
        (∃ written, Holds (bytes ++ (Csv.encode (before.map record)).toBytes) written) ∧
        Breaks (bytes ++ (Csv.encode ((before ++ [row]).map record)).toBytes) broken := by
  induction rows generalizing bytes w with
  | nil =>
    rw [List.map_nil, Csv.encode_nil, Text.toBytes_nil, List.append_nil]
    exact h
  | cons row rows ih =>
    have hrow := hstep (record row) h
    rw [writeRows]
    cases hnext : w.writeRecord cut (record row) with
    | error broken =>
      rw [hnext] at hrow
      refine ⟨[], row, rows, rfl, rfl, ⟨w, ?_⟩, ?_⟩
      · rw [List.map_nil, Csv.encode_nil, Text.toBytes_nil, List.append_nil]
        exact h
      · rw [List.nil_append, List.map_singleton, Csv.encode_cons, Csv.encode_nil, List.append_nil]
        exact hrow
    | ok next =>
      rw [hnext] at hrow
      have hrest := ih hrow
      have hcons (rows : List Row) :
          bytes ++ (Csv.encodeRecord (record row)).toBytes ++
              (Csv.encode (rows.map record)).toBytes =
            bytes ++ (Csv.encode ((row :: rows).map record)).toBytes := by
        rw [List.map_cons, Csv.encode_cons, Text.toBytes_append, List.append_assoc]
      dsimp only
      cases hrows : next.writeRows cut rows with
      | ok last =>
        rw [hrows] at hrest
        rw [← hcons]
        exact hrest
      | error broken =>
        obtain ⟨activity, broken⟩ := broken
        rw [hrows] at hrest
        obtain ⟨before, failing, after, rfl, rfl, ⟨written, hwritten⟩, hbroken⟩ := hrest
        refine ⟨row :: before, failing, after, rfl, rfl, ⟨written, ?_⟩, ?_⟩
        · rw [← hcons]
          exact hwritten
        · rw [List.cons_append, ← hcons]
          exact hbroken

/-! ## What the file has got -/

/-- What the file got and what is held back are all that was handed over. -/
structure Carries (fs : FileSystem) (handle : Handle) (bytes : Bytes) (w : Writer) : Prop where
  opened : w.handle = handle
  files : ∃ sent, w.files = fs.setStored sent handle ∧ sent ++ w.held.bytes = bytes ∧
    Fits (fs.limit? handle) sent.length

/-- Of the bytes handed over the file has got those in front of its limit. -/
def Tears (fs : FileSystem) (handle : Handle) (bytes : Bytes) (broken : Broken) : Prop :=
  ∃ limit, fs.limit? handle = some limit ∧ limit.room < bytes.length ∧
    broken = ⟨fs.setStored (bytes.take limit.room) handle, limit.fault⟩

theorem Tears.append {broken : Broken} (h : Tears fs handle bytes broken) (more : Bytes) :
    Tears fs handle (bytes ++ more) broken := by
  obtain ⟨limit, hlimit, hroom, rfl⟩ := h
  refine ⟨limit, hlimit, ?_, ?_⟩
  · rw [List.length_append]
    exact Nat.lt_add_right _ hroom
  · rw [List.take_append_of_le_length (Nat.le_of_lt hroom)]

/-- The same, in a record with which all that was handed over outgrew the buffer. -/
def Spills (fs : FileSystem) (handle : Handle) (bytes : Bytes) (broken : Broken) : Prop :=
  Tears fs handle bytes broken ∧ bufferSize < bytes.length

theorem Spills.append {broken : Broken} (h : Spills fs handle bytes broken) (more : Bytes) :
    Spills fs handle (bytes ++ more) broken := by
  refine ⟨h.1.append more, ?_⟩
  rw [List.length_append]
  exact Nat.lt_add_right _ h.2

theorem carries_start (h : fs.setStored [] handle = fs) :
    Carries fs handle [] (start fs handle) :=
  ⟨rfl, [], h.symm, rfl, fun _ _ => Nat.zero_le _⟩

/-- What is held back goes out as far as it fits. -/
theorem Carries.drain (h : Carries fs handle bytes w) :
    match w.drain with
    | .ok next => Carries fs handle bytes next ∧ next.held.bytes = [] ∧
        Fits (fs.limit? handle) bytes.length
    | .error broken => Tears fs handle bytes broken := by
  obtain ⟨rfl, sent, hfiles, rfl, hsent⟩ := h
  rw [Writer.drain]
  by_cases hheld : w.held.bytes = []
  · rw [if_pos hheld]
    refine ⟨⟨rfl, sent, hfiles, rfl, hsent⟩, hheld, ?_⟩
    rw [hheld, List.append_nil]
    exact hsent
  · rw [if_neg hheld, hfiles]
    by_cases hfits : Fits (fs.limit? w.handle) (sent ++ w.held.bytes).length
    · rw [append_setStored_of_fits fs w.handle hfits]
      exact ⟨⟨rfl, _, rfl, List.append_nil _, hfits⟩, rfl, hfits⟩
    · obtain ⟨limit, hlimit, hroom⟩ := exists_of_not_fits hfits
      have hfull : ((sent ++ w.held.bytes).take limit.room).length = limit.room :=
        List.length_take_of_le (Nat.le_of_lt hroom)
      rw [append_setStored_of_not_fits fs w.handle hlimit (hsent limit hlimit) hroom]
      dsimp only
      rw [append_setStored_of_full fs w.handle hlimit hfull hheld]
      exact ⟨limit, hlimit, hroom, rfl⟩

/-- A piece is only at fault if the buffer does not take all that was handed over. -/
theorem Carries.hold (h : Carries fs handle bytes w) (piece : Chunk) :
    match w.hold piece with
    | .ok next => Carries fs handle (bytes ++ piece.bytes) next
    | .error broken => Spills fs handle (bytes ++ piece.bytes) broken := by
  by_cases hfits : w.held.bytes.length + piece.bytes.length ≤ bufferSize
  · rw [Writer.hold, dif_pos hfits]
    obtain ⟨hhandle, sent, hfiles, rfl, hsent⟩ := h
    exact ⟨hhandle, sent, hfiles, (List.append_assoc ..).symm, hsent⟩
  · have hdrain := h.drain
    obtain ⟨-, sent, -, hbytes, -⟩ := h
    rw [Writer.hold, dif_neg hfits]
    cases hdrained : w.drain with
    | error broken =>
      rw [hdrained] at hdrain
      refine ⟨hdrain.append piece.bytes, ?_⟩
      rw [← hbytes, List.length_append, List.length_append]
      omega
    | ok next =>
      rw [hdrained] at hdrain
      obtain ⟨⟨hhandle, sent, hfiles, rfl, hsent⟩, hheld, -⟩ := hdrain
      rw [hheld, List.append_nil]
      exact ⟨hhandle, sent, hfiles, rfl, hsent⟩

theorem Carries.writeRecord (cut : Cut) (h : Carries fs handle bytes w) (fields : List Text) :
    match w.writeRecord cut fields with
    | .ok next => Carries fs handle (bytes ++ (Csv.encodeRecord fields).toBytes) next
    | .error broken => Spills fs handle (bytes ++ (Csv.encodeRecord fields).toBytes) broken := by
  have hpieces := foldlM_hold (Carries fs handle) (Spills fs handle)
    (fun piece hcarries => hcarries.hold piece) (fun more hspills => hspills.append more) h
    (cut.pieces w.room (Csv.encodeRecord fields).toBytes)
  rw [cut.flatMap_pieces] at hpieces
  exact hpieces

/-! ## Pieces that fill the buffer -/

/-- How many bytes have gone out when so many were handed over in pieces that fill the buffer.
The last of them wait for more. -/
def sentOf (count : Nat) : Nat := bufferSize * ((count - 1) / bufferSize)

theorem sentOf_mono {few many : Nat} (h : few ≤ many) : sentOf few ≤ sentOf many :=
  Nat.mul_le_mul_left _ (Nat.div_le_div_right (Nat.sub_le_sub_right h 1))

/-- No more went out than had to. -/
structure Brims (fs : FileSystem) (handle : Handle) (bytes : Bytes) (w : Writer) : Prop where
  carries : Carries fs handle bytes w
  held : sentOf bytes.length + w.held.bytes.length = bytes.length

/-- The file takes less than had to go out. -/
def Bursts (fs : FileSystem) (handle : Handle) (bytes : Bytes) : Prop :=
  ¬ Fits (fs.limit? handle) (sentOf bytes.length)

theorem Bursts.append (h : Bursts fs handle bytes) (more : Bytes) :
    Bursts fs handle (bytes ++ more) := by
  refine fun hfits => h (hfits.mono (sentOf_mono ?_))
  rw [List.length_append]
  exact Nat.le_add_right _ _

theorem brims_start (h : fs.setStored [] handle = fs) : Brims fs handle [] (start fs handle) :=
  ⟨carries_start h, rfl⟩

/-- A piece that the buffer takes keeps it as full as can be. -/
theorem Brims.hold_of_fits (h : Brims fs handle bytes w) (piece : Chunk)
    (hfits : w.held.bytes.length + piece.bytes.length ≤ bufferSize) :
    ∃ next, w.hold piece = .ok next ∧ Brims fs handle (bytes ++ piece.bytes) next ∧
      next.held.bytes = w.held.bytes ++ piece.bytes := by
  have hcarries := h.carries.hold piece
  have hheld := h.held
  rw [hold, dif_pos hfits] at hcarries ⊢
  refine ⟨_, rfl, ⟨hcarries, ?_⟩, rfl⟩
  rw [List.length_append, List.length_append]
  simp only [sentOf, bufferSize] at hheld hfits ⊢
  omega

/-- A piece only makes a full buffer go out, and then it is the next to be held back. -/
theorem Brims.hold_of_full (h : Brims fs handle bytes w) (hfull : w.held.bytes.length = bufferSize)
    (piece : Chunk) (hne : piece.bytes ≠ []) :
    match w.hold piece with
    | .ok next => Brims fs handle (bytes ++ piece.bytes) next ∧ next.held = piece
    | .error _ => Bursts fs handle (bytes ++ piece.bytes) := by
  have hcarries := h.carries.hold piece
  have hdrain := h.carries.drain
  have hheld := h.held
  have hpiece := piece.fits
  have hpos := List.length_pos_iff.mpr hne
  have hover : ¬ w.held.bytes.length + piece.bytes.length ≤ bufferSize := by omega
  have hsent : sentOf (bytes ++ piece.bytes).length = bytes.length := by
    rw [List.length_append]
    simp only [sentOf, bufferSize] at hheld hfull hpiece ⊢
    omega
  rw [hold, dif_neg hover] at hcarries ⊢
  cases hdrained : w.drain with
  | error broken =>
    rw [hdrained] at hdrain
    obtain ⟨limit, hlimit, hroom, -⟩ := hdrain
    intro hfits
    rw [hsent] at hfits
    exact absurd (hfits limit hlimit) (Nat.not_le.mpr hroom)
  | ok next =>
    rw [hdrained] at hcarries
    refine ⟨⟨hcarries, ?_⟩, rfl⟩
    rw [hsent, List.length_append]

/-- A buffer that is full lets blocks follow, and one that is not lets nothing follow. -/
theorem Brims.foldlM_blocks (h : Brims fs handle bytes w) (count : Nat) {rest : Bytes}
    (hfull : w.held.bytes.length = bufferSize ∨ rest = []) :
    match (Chunk.blocks count rest).foldlM Writer.hold w with
    | .ok next => Brims fs handle (bytes ++ (Chunk.blocks count rest).flatMap Chunk.bytes) next
    | .error _ => Bursts fs handle (bytes ++ (Chunk.blocks count rest).flatMap Chunk.bytes) := by
  induction count generalizing bytes w rest with
  | zero =>
    rw [Chunk.blocks, List.flatMap_nil, List.append_nil]
    exact h
  | succ count ih =>
    have hfront : (Chunk.front bufferSize rest).bytes = rest.take bufferSize := by
      rw [Chunk.bytes_front, Nat.min_self]
    rw [Chunk.blocks, List.foldlM_cons, List.flatMap_cons, ← List.append_assoc]
    by_cases hrest : rest = []
    · subst hrest
      have hnil : (Chunk.front bufferSize []).bytes = [] := by rw [hfront, List.take_nil]
      have hfits : w.held.bytes.length + (Chunk.front bufferSize []).bytes.length ≤ bufferSize := by
        rw [hnil]
        exact w.held.fits
      obtain ⟨next, hnext, hbrims, -⟩ := h.hold_of_fits _ hfits
      rw [hnext]
      exact ih hbrims (Or.inr List.drop_nil)
    · have hne : (Chunk.front bufferSize rest).bytes ≠ [] := by
        rw [hfront, Ne, List.take_eq_nil_iff, not_or]
        exact ⟨by decide, hrest⟩
      have hpiece := h.hold_of_full (hfull.resolve_right hrest) _ hne
      cases hnext : w.hold (Chunk.front bufferSize rest) with
      | error broken =>
        rw [hnext] at hpiece
        exact hpiece.append _
      | ok next =>
        rw [hnext] at hpiece
        obtain ⟨hbrims, hheld⟩ := hpiece
        apply ih hbrims
        rw [hheld, hfront, List.length_take, List.drop_eq_nil_iff]
        omega

/-- What comes at once keeps the buffer as full as can be. -/
theorem Brims.foldlM_filling (h : Brims fs handle bytes w) (more : Bytes) :
    match (Cut.filling.pieces w.room more).foldlM Writer.hold w with
    | .ok next => Brims fs handle (bytes ++ more) next
    | .error _ => Bursts fs handle (bytes ++ more) := by
  have hheld := w.held.fits
  have hfront := Chunk.bytes_front w.room more
  have hfits : w.held.bytes.length + (Chunk.front w.room more).bytes.length ≤ bufferSize := by
    rw [hfront, List.length_take, room]
    omega
  obtain ⟨next, hnext, hbrims, hnextHeld⟩ := h.hold_of_fits _ hfits
  have hfull : next.held.bytes.length = bufferSize ∨ more.drop (min w.room bufferSize) = [] := by
    rw [hnextHeld, hfront, List.length_append, List.length_take, List.drop_eq_nil_iff, room]
    omega
  have hblocks := hbrims.foldlM_blocks (more.length / bufferSize + 1) hfull
  rw [List.append_assoc, ← List.flatMap_cons] at hblocks
  have hall : (Chunk.front w.room more :: Chunk.blocks (more.length / bufferSize + 1)
      (more.drop (min w.room bufferSize))).flatMap Chunk.bytes = more :=
    Cut.filling.flatMap_pieces w.room more
  rw [hall] at hblocks
  rw [Cut.filling, List.foldlM_cons, hnext]
  exact hblocks

theorem Brims.writeRecord (h : Brims fs handle bytes w) (fields : List Text) :
    match w.writeRecord .filling fields with
    | .ok next => Brims fs handle (bytes ++ (Csv.encodeRecord fields).toBytes) next
    | .error _ => Bursts fs handle (bytes ++ (Csv.encodeRecord fields).toBytes) :=
  h.foldlM_filling _

theorem Brims.of_writeRecord (h : Brims fs handle bytes w) {fields : List Text} {next : Writer}
    (hnext : w.writeRecord .filling fields = .ok next) :
    Brims fs handle (bytes ++ (Csv.encodeRecord fields).toBytes) next := by
  have hrecord := h.writeRecord fields
  rw [hnext] at hrecord
  exact hrecord

end Writer

/-! ## The whole report -/

section

variable {cut : Cut} {results : Results} {fs : FileSystem} {handle : Handle}

theorem toBytes_header_rows (rows : List Row) :
    [] ++ (Csv.encodeRecord header).toBytes ++ (Csv.encode (rows.map record)).toBytes =
      (Csv.encode (header :: rows.map record)).toBytes := by
  rw [Csv.encode_cons, Text.toBytes_append, List.nil_append]

theorem text_eq_of_rows {before after : List Row} {row : Row}
    (h : results.rows = before ++ row :: after) :
    text results = Csv.encode (header :: (before ++ [row]).map record) ++
      Csv.encode (after.map record) := by
  rw [text, h, ← Csv.encode_append, List.cons_append, ← List.map_append, List.append_assoc,
    List.singleton_append]

/-- The buffer takes the header, so it is never at fault. -/
theorem Writer.writeRecord_header (cut : Cut) (h : fs.setStored [] handle = fs) :
    ∃ headed, (Writer.start fs handle).writeRecord cut header = .ok headed ∧
      Writer.Carries fs handle ([] ++ (Csv.encodeRecord header).toBytes) headed := by
  have hheader := (Writer.carries_start h).writeRecord cut header
  cases hheaded : (Writer.start fs handle).writeRecord cut header with
  | ok headed =>
    rw [hheaded] at hheader
    exact ⟨headed, rfl, hheader⟩
  | error broken =>
    rw [hheaded] at hheader
    have hover := hheader.2
    rw [List.nil_append, ← Text.byteLength_eq_length_toBytes] at hover
    exact absurd byteLength_header (Nat.not_le.mpr hover)

/-- When storing meets the limit of a file that takes so many bytes: in a row, or in the flush at
the end, and at most one buffer late. -/
inductive Meets (results : Results) (room : Nat) : Activity → Prop
  | row {before after : List Row} {row : Row} : results.rows = before ++ row :: after →
      (Csv.encode (header :: before.map record)).byteLength ≤ room + bufferSize →
      max room bufferSize < (Csv.encode (header :: (before ++ [row]).map record)).byteLength →
      Meets results room (.writeRow row.id)
  | flush : (text results).byteLength ≤ room + bufferSize →
      room < (text results).byteLength → Meets results room .flush

/-- What the file takes is less than the text. -/
theorem Meets.lt_byteLength {room : Nat} {activity : Activity} (h : Meets results room activity) :
    room < (text results).byteLength := by
  cases h with
  | row hrows _ hover =>
    have hroom := Nat.lt_of_le_of_lt (Nat.le_max_left _ _) hover
    rw [text_eq_of_rows hrows, Text.byteLength_append]
    exact Nat.lt_add_right _ hroom
  | flush _ hroom => exact hroom

theorem Writer.Carries.length_le {bytes : Bytes} {w : Writer} (h : Carries fs handle bytes w)
    {limit : Limit} (hlimit : fs.limit? handle = some limit) :
    bytes.length ≤ limit.room + bufferSize := by
  obtain ⟨-, sent, -, rfl, hsent⟩ := h
  have hroom := hsent limit hlimit
  have hheld := w.held.fits
  rw [List.length_append]
  omega

/-- All that storing can do: the text is stored, or as much of it as the file takes. -/
theorem store_cases (cut : Cut) (results : Results) (h : fs.setStored [] handle = fs) :
    (Fits (fs.limit? handle) (text results).byteLength ∧
        store cut results fs handle = (fs.setStored (text results).toBytes handle, .ok ())) ∨
      ∃ limit activity, fs.limit? handle = some limit ∧ Meets results limit.room activity ∧
        store cut results fs handle =
          (fs.setStored ((text results).toBytes.take limit.room) handle,
            .error ⟨[activity], causeOf activity limit.fault⟩) := by
  obtain ⟨headed, hheaded, hcarries⟩ := Writer.writeRecord_header cut h
  have hrows := Writer.writeRows_cases (Writer.Carries fs handle) (Writer.Spills fs handle)
    (fun fields hcarries => hcarries.writeRecord cut fields) hcarries results.rows
  rw [store, hheaded]
  dsimp only
  cases hwritten : headed.writeRows cut results.rows with
  | ok written =>
    rw [hwritten, toBytes_header_rows] at hrows
    have hdrain := hrows.drain
    dsimp only at hrows ⊢
    cases hdrained : written.drain with
    | ok drained =>
      rw [hdrained] at hdrain
      obtain ⟨⟨-, sent, hfiles, hbytes, -⟩, hheld, hfits⟩ := hdrain
      rw [hheld, List.append_nil] at hbytes
      rw [← Text.byteLength_eq_length_toBytes] at hfits
      exact Or.inl ⟨hfits, by dsimp only; rw [hfiles, hbytes, text]⟩
    | error broken =>
      rw [hdrained] at hdrain
      obtain ⟨limit, hlimit, hroom, rfl⟩ := hdrain
      have hle := hrows.length_le hlimit
      rw [← Text.byteLength_eq_length_toBytes] at hroom hle
      exact Or.inr ⟨limit, .flush, hlimit, .flush hle hroom, rfl⟩
  | error failed =>
    obtain ⟨activity, broken⟩ := failed
    rw [hwritten] at hrows
    obtain ⟨before, row, after, heq, rfl, ⟨written, hbefore⟩, hspills⟩ := hrows
    rw [toBytes_header_rows] at hbefore hspills
    have htears := (hspills.append (Csv.encode (after.map record)).toBytes).1
    rw [← Text.toBytes_append, ← text_eq_of_rows heq] at htears
    obtain ⟨limit, hlimit, -, rfl⟩ := htears
    obtain ⟨⟨other, hother, hroom, -⟩, hover⟩ := hspills
    obtain rfl : limit = other := Option.some.inj (hlimit.symm.trans hother)
    have hle := hbefore.length_le hlimit
    rw [← Text.byteLength_eq_length_toBytes] at hroom hover hle
    have hmax := Nat.max_lt.mpr ⟨hroom, hover⟩
    exact Or.inr ⟨limit, _, hlimit, .row heq hle hmax, rfl⟩

/-- What fits is stored. -/
theorem store_of_fits (cut : Cut) (results : Results) (h : fs.setStored [] handle = fs)
    (hfits : Fits (fs.limit? handle) (text results).byteLength) :
    store cut results fs handle = (fs.setStored (text results).toBytes handle, .ok ()) := by
  rcases store_cases cut results h with ⟨-, hstore⟩ | ⟨limit, activity, hlimit, hmeets, -⟩
  · exact hstore
  · exact absurd hmeets.lt_byteLength (Nat.not_lt.mpr (hfits limit hlimit))

/-- A file that takes no byte is met when the first bytes go out, however they are cut. -/
theorem Meets.eq_firstOutput {activity : Activity} (h : Meets results 0 activity) :
    activity = firstOutput results := by
  cases h with
  | flush hle _ =>
    rw [Nat.zero_add] at hle
    exact ((firstOutput_eq_flush_iff results).mpr hle).symm
  | row hrows hle hover =>
    rw [Nat.zero_add] at hle
    rw [Nat.zero_max] at hover
    exact (firstOutput_eq_writeRow hrows hle hover).symm

theorem byteLength_text_pos (results : Results) : 0 < (text results).byteLength := by
  have hheader : 0 < (Csv.encodeRecord header).byteLength := by decide +kernel
  rw [text, Csv.encode_cons, Text.byteLength_append]
  exact Nat.add_pos_left hheader _

/-- A file that takes no byte fails the report, and what the failure names is up to the table
alone. -/
theorem store_of_full (cut : Cut) (results : Results) (h : fs.setStored [] handle = fs)
    {limit : Limit} (hlimit : fs.limit? handle = some limit) (hfull : limit.room = 0) :
    store cut results fs handle =
      (fs, .error ⟨[firstOutput results], causeOf (firstOutput results) limit.fault⟩) := by
  rcases store_cases cut results h with ⟨hfits, -⟩ | ⟨other, activity, hother, hmeets, hstore⟩
  · have hle := hfits limit hlimit
    rw [hfull] at hle
    exact absurd (byteLength_text_pos results) (Nat.not_lt.mpr hle)
  · obtain rfl : limit = other := Option.some.inj (hlimit.symm.trans hother)
    rw [hfull] at hmeets hstore
    rw [hstore, hmeets.eq_firstOutput, List.take_zero, h]

/-- With pieces that fill the buffer, the kind of a failure is up to the length of the text. -/
theorem kind_store (results : Results) (h : fs.setStored [] handle = fs) {f : Failure}
    (hf : (store .filling results fs handle).2 = .error f) :
    f.kind = if Fits (fs.limit? handle) (Writer.sentOf (text results).byteLength)
      then .io else .csv := by
  obtain ⟨headed, hheaded, -⟩ := Writer.writeRecord_header .filling h
  have hheader := (Writer.brims_start h).of_writeRecord hheaded
  have hrows := Writer.writeRows_cases (Writer.Brims fs handle)
    (fun bytes _ => Writer.Bursts fs handle bytes)
    (fun fields hbrims => hbrims.writeRecord fields) hheader results.rows
  rw [store, hheaded] at hf
  dsimp only at hf
  cases hwritten : headed.writeRows .filling results.rows with
  | ok written =>
    rw [hwritten] at hrows hf
    obtain ⟨⟨-, sent, -, hbytes, hsent⟩, hheld⟩ := hrows
    dsimp only at hf
    cases hdrained : written.drain with
    | ok drained =>
      rw [hdrained] at hf
      cases hf
    | error broken =>
      rw [hdrained] at hf
      cases hf
      have hsentOf : sent.length = Writer.sentOf (text results).byteLength := by
        rw [toBytes_header_rows, ← text] at hbytes hheld
        rw [Text.byteLength_eq_length_toBytes]
        rw [← hbytes, List.length_append] at hheld ⊢
        omega
      rw [hsentOf] at hsent
      rw [if_pos hsent]
      rfl
  | error failed =>
    obtain ⟨activity, broken⟩ := failed
    rw [hwritten] at hrows hf
    obtain ⟨before, row, after, heq, rfl, -, hbursts⟩ := hrows
    cases hf
    have htext := hbursts.append (Csv.encode (after.map record)).toBytes
    rw [toBytes_header_rows, ← Text.toBytes_append, ← text_eq_of_rows heq, Writer.Bursts,
      ← Text.byteLength_eq_length_toBytes] at htext
    rw [if_neg htext]
    rfl

end
end ReportFile
end SimReport
