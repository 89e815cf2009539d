/-
The writer of the report file.  It takes a record in pieces, holds them back as
long as its buffer takes them, and hands the buffer over when a piece does not fit
and when it is asked to.  Only then can the file be at fault, so a fault is met
later than the bytes that it concerns, and what went out before stays in the file.
-/
import SimReport.FileSystem.Operations
import SimReport.ReportFile

namespace SimReport
namespace ReportFile

def bufferSize : Nat := 8192

/-- Bytes that fit into the buffer. -/
structure Chunk where
  bytes : Bytes
  fits : bytes.length ≤ bufferSize

namespace Chunk

/-- The first of the bytes, as many as `size` says and the buffer takes. -/
def front (size : Nat) (bytes : Bytes) : Chunk where
  bytes := bytes.take (min size bufferSize)
  fits := Nat.le_trans (List.length_take_le _ _) (Nat.min_le_right _ _)

@[simp] theorem bytes_front (size : Nat) (bytes : Bytes) :
    (front size bytes).bytes = bytes.take (min size bufferSize) := rfl

/-- Chunks that fill the buffer, and at last one that need not. -/
def blocks : Nat → Bytes → List Chunk
  | 0, _ => []
  | count + 1, bytes => front bufferSize bytes :: blocks count (bytes.drop bufferSize)

theorem flatMap_blocks {count : Nat} {bytes : Bytes} (h : bytes.length ≤ count * bufferSize) :
    (blocks count bytes).flatMap Chunk.bytes = bytes := by
  induction count generalizing bytes with
  | zero =>
    rw [Nat.zero_mul] at h
    rw [List.length_eq_zero_iff.mp (Nat.le_zero.mp h)]
    rfl
  | succ count ih =>
    have hrest : (bytes.drop bufferSize).length ≤ count * bufferSize := by
      rw [Nat.succ_mul] at h
      rw [List.length_drop]
      omega
    rw [blocks, List.flatMap_cons, ih hrest, bytes_front, Nat.min_self, List.take_append_drop]

end Chunk

/-- A way to hand bytes over in pieces.  Which pieces an encoder makes is up to it: it may fill
up the room that is left, say, or keep a doubled quote together. -/
structure Cut where
  pieces (room : Nat) (bytes : Bytes) : List Chunk
  flatMap_pieces (room : Nat) (bytes : Bytes) : (pieces room bytes).flatMap Chunk.bytes = bytes

/-- Fills up the room that is left, and then the whole buffer as often as it takes. -/
def Cut.filling : Cut where
  pieces room bytes :=
    .front room bytes ::
      Chunk.blocks (bytes.length / bufferSize + 1) (bytes.drop (min room bufferSize))
  flatMap_pieces room bytes := by
    have hrest : (bytes.drop (min room bufferSize)).length ≤
        (bytes.length / bufferSize + 1) * bufferSize := by
      have hdiv := Nat.div_add_mod bytes.length bufferSize
      have hmod : bytes.length % bufferSize < bufferSize := Nat.mod_lt _ (by decide)
      rw [List.length_drop, Nat.succ_mul, Nat.mul_comm]
      omega
    rw [List.flatMap_cons, Chunk.flatMap_blocks hrest, Chunk.bytes_front, List.take_append_drop]

/-- An open file and the bytes that are held back from it. -/
structure Writer where
  files : FileSystem
  handle : Handle
  held : Chunk

/-- A fault of the file, and the files as they are then. -/
structure Broken where
  files : FileSystem
  fault : IoError

/-- How storing a report ends during an activity. -/
def Broken.ends (broken : Broken) (activity : Activity) : FileSystem × Except Failure Unit :=
  (broken.files, .error ⟨[activity], causeOf activity broken.fault⟩)

namespace Writer

/-- A writer that nothing was handed to. -/
def start (files : FileSystem) (handle : Handle) : Writer := ⟨files, handle, [], Nat.zero_le _⟩

/-- Hands over what is held back.  No bytes are no write.  After a fault the writer is given up,
and with that it hands the same bytes over once more, whatever becomes of them. -/
def drain (w : Writer) : Except Broken Writer :=
  if w.held.bytes = [] then .ok w
  else
    match w.files.append w.handle w.held.bytes with
    | (files, .error fault) => .error ⟨(files.append w.handle w.held.bytes).1, fault⟩
    | (files, .ok ()) => .ok (start files w.handle)

def hold (w : Writer) (piece : Chunk) : Except Broken Writer :=
  if h : w.held.bytes.length + piece.bytes.length ≤ bufferSize then
    .ok { w with held := ⟨w.held.bytes ++ piece.bytes, by rwa [List.length_append]⟩ }
  else
    match w.drain with
    | .error broken => .error broken
    | .ok w => .ok { w with held := piece }

def room (w : Writer) : Nat := bufferSize - w.held.bytes.length

def writeRecord (cut : Cut) (w : Writer) (fields : List Text) : Except Broken Writer :=
  (cut.pieces w.room (Csv.encodeRecord fields).toBytes).foldlM hold w

def writeRows (cut : Cut) (w : Writer) : List Row → Except (Activity × Broken) Writer
  | [] => .ok w
  | row :: rows =>
    match w.writeRecord cut (record row) with
    | .error broken => .error (.writeRow row.id, broken)
    | .ok w => w.writeRows cut rows

end Writer

/-- Stores the report in an open file, record by record. -/
def store (cut : Cut) (results : Results) (fs : FileSystem) (handle : Handle) :
    FileSystem × Except Failure Unit :=
  match (Writer.start fs handle).writeRecord cut header with
  | .error broken => broken.ends .writeHeader
  | .ok w =>
    match w.writeRows cut results.rows with
    | .error (activity, broken) => broken.ends activity
    | .ok w =>
      match w.drain with
      | .error broken => broken.ends .flush
      | .ok w => (w.files, .ok ())

/-- Writes the report to a file in a directory, which is created if it is missing. -/
def save (results : Results) (directory file : Path) (fs : FileSystem) :
    FileSystem × Except Failure Unit :=
  match fs.makeDirectories directory with
  | (made, .error e) => (made, .error ⟨[.createDirectories directory], .io e⟩)
  | (made, .ok ()) =>
    match made.openEmpty file with
    | .error e => (made, .error ⟨[.create file], .csv e⟩)
    | .ok (opened, handle) => store .filling results opened handle

end ReportFile
end SimReport
