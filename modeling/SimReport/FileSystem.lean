/-
A file system as a list of entries, each with its place in the tree.  The order
of the list is the order in which a directory lists its entries, and a symbolic
link keeps its target as it was written.  A regular file is kept apart from its
names, so several names may share it.

What the system refuses, and how much a file takes, belongs to the file system as
well.  Rights that are missing, media that cannot be read and disks that are full
show in nothing else.
-/
import SimReport.Keyed
import SimReport.Path

namespace SimReport

inductive IoError
  | notFound
  | alreadyExists
  | notADirectory
  | isADirectory
  | noSpace
  | nameTooLong
  | tooManyLinks
  | nulByte
  | outOfMemory
  /-- Any other fault, in the words of the system. -/
  | refused (reason : Text)
  deriving DecidableEq

/-- The message of the operating system, where it is one that sees the fault. -/
def IoError.message : IoError → Text
  | notFound => "No such file or directory (os error 2)".toList
  | alreadyExists => "File exists (os error 17)".toList
  | notADirectory => "Not a directory (os error 20)".toList
  | isADirectory => "Is a directory (os error 21)".toList
  | noSpace => "No space left on device (os error 28)".toList
  | nameTooLong => "File name too long (os error 36)".toList
  | tooManyLinks => "Too many levels of symbolic links (os error 40)".toList
  | nulByte => "file name contained an unexpected NUL byte".toList
  | outOfMemory => "out of memory".toList
  | refused reason => reason

/-- A name that an entry of a directory can have. -/
structure Name where
  bytes : Bytes
  valid : bytes ≠ [] ∧ bytes ≠ Path.dot ∧ bytes ≠ Path.dotDot ∧ Path.separator ∉ bytes ∧
    0 ∉ bytes
  deriving DecidableEq

def Name.ofBytes? (bytes : Bytes) : Option Name :=
  if h : bytes ≠ [] ∧ bytes ≠ Path.dot ∧ bytes ≠ Path.dotDot ∧ Path.separator ∉ bytes ∧ 0 ∉ bytes
  then some ⟨bytes, h⟩ else none

@[ext] theorem Name.ext {a b : Name} (h : a.bytes = b.bytes) : a = b := by
  cases a; cases b; cases h; rfl

/-- The names from an entry up to the root, innermost first. -/
abbrev Location := List Name

/-- One move of a walk.  `close` is a separator at the end of the path: what is
before it must be a directory. -/
inductive Hop
  | stay
  | up
  | into (name : Name)
  | close
  deriving DecidableEq

/-- How many bytes a file takes in all, and the fault that a further one meets. -/
structure Limit where
  room : Nat
  fault : IoError
  deriving DecidableEq

structure File where
  content : Bytes := []
  limit? : Option Limit := none
  deriving DecidableEq

inductive Device
  /-- Takes no byte, and has no end when it is read. -/
  | full
  /-- Takes every byte and keeps none. -/
  | null
  deriving DecidableEq

inductive Entry
  | directory
  /-- A name of the file with this number. -/
  | file (id : Nat)
  | link (target : Path)
  | device (d : Device)
  deriving DecidableEq

/-- No number of a file reaches this. -/
def Entry.bound : Entry → Nat
  | file id => id + 1
  | _ => 0

/-- What the system may refuse to do. -/
inductive Request
  | pass (directory : Location) (hop : Hop)
  | list (directory : Location)
  /-- Tell the next entry of a directory, behind as many as were told. -/
  | next (directory : Location) (told : Nat)
  | read (place : Location)
  | write (place : Location)
  | add (place : Location)
  deriving DecidableEq

/-- The root is a directory and has no entry of its own. -/
structure FileSystem where
  entries : List (Location × Entry)
  distinct : (entries.map Prod.fst).Nodup
  file : Nat → File := fun _ => {}
  refusal? : Request → Option Text := fun _ => none
  workingDirectory : Location := []

namespace FileSystem

def empty : FileSystem where
  entries := []
  distinct := List.nodup_nil

def permit (fs : FileSystem) (request : Request) : Except IoError Unit :=
  match fs.refusal? request with
  | none => .ok ()
  | some reason => .error (.refused reason)

def get? (fs : FileSystem) (loc : Location) : Option Entry :=
  if loc = [] then some .directory else (Keyed.find? Prod.fst loc fs.entries).map Prod.snd

/-- Puts an entry in place of what stands there, or as the last of its directory. -/
def put (fs : FileSystem) (loc : Location) (entry : Entry) : FileSystem :=
  { fs with
    entries := Keyed.store Prod.fst (loc, entry) fs.entries
    distinct := Keyed.nodup_keys_store (loc, entry) fs.distinct }

/-- Takes away an entry and all below it. -/
def clear (fs : FileSystem) (loc : Location) : FileSystem :=
  { fs with
    entries := fs.entries.filter fun e => !loc.isSuffixOf e.1
    distinct := fs.distinct.sublist (List.filter_sublist.map Prod.fst) }

/-- The content of a file becomes another, under all its names. -/
def setContent (fs : FileSystem) (id : Nat) (content : Bytes) : FileSystem :=
  let file := { fs.file id with content }
  { fs with file := fun other => if other = id then file else fs.file other }

/-- A number that no entry has. -/
def freshId (fs : FileSystem) : Nat :=
  fs.entries.foldr (fun e bound => max e.2.bound bound) 0

/-- The names in a directory, in listing order. -/
def namesIn (fs : FileSystem) (directory : Location) : List Name :=
  fs.entries.filterMap fun e =>
    match e.1 with
    | name :: parent => if parent = directory then some name else none
    | [] => none

@[ext] theorem ext {a b : FileSystem} (he : a.entries = b.entries) (hf : a.file = b.file)
    (hr : a.refusal? = b.refusal?) (hw : a.workingDirectory = b.workingDirectory) : a = b := by
  cases a; cases b; cases he; cases hf; cases hr; cases hw; rfl

@[simp] theorem get?_root (fs : FileSystem) : fs.get? [] = some .directory := rfl

/-- Putting an entry changes that place alone. -/
theorem get?_put (fs : FileSystem) {loc : Location} (h : loc ≠ []) (entry : Entry)
    (l : Location) : (fs.put loc entry).get? l = if l = loc then some entry else fs.get? l := by
  simp only [get?, put, Keyed.find?_store]
  by_cases hl : l = loc
  · rw [if_neg (hl ▸ h), if_pos hl, if_pos hl]; rfl
  · rw [if_neg hl, if_neg hl]

@[simp] theorem file_put (fs : FileSystem) (loc : Location) (entry : Entry) :
    (fs.put loc entry).file = fs.file := rfl

/-- Setting a content changes that file alone, and not what it takes. -/
theorem file_setContent (fs : FileSystem) (id : Nat) (content : Bytes) (other : Nat) :
    (fs.setContent id content).file other =
      if other = id then { fs.file id with content } else fs.file other := rfl

@[simp] theorem setContent_setContent (fs : FileSystem) (id : Nat) (a b : Bytes) :
    (fs.setContent id a).setContent id b = fs.setContent id b := by
  refine FileSystem.ext rfl (funext fun other => ?_) rfl rfl
  simp only [file_setContent, if_true]
  split <;> rfl

theorem bound_le_of_mem {e : Location × Entry} {entries : List (Location × Entry)}
    (h : e ∈ entries) : e.2.bound ≤ entries.foldr (fun e bound => max e.2.bound bound) 0 := by
  induction entries with
  | nil => cases h
  | cons first entries ih =>
    rw [List.foldr_cons]
    rcases List.mem_cons.mp h with rfl | h
    · exact Nat.le_max_left ..
    · exact Nat.le_trans (ih h) (Nat.le_max_right ..)

/-- No name leads to the file with a fresh number. -/
theorem id_lt_freshId {fs : FileSystem} {loc : Location} {id : Nat}
    (h : fs.get? loc = some (.file id)) : id < fs.freshId := by
  rw [get?] at h
  split at h
  · cases h
  · obtain ⟨⟨l, e⟩, hfound, rfl⟩ := Option.map_eq_some_iff.mp h
    exact bound_le_of_mem (List.mem_of_find?_eq_some hfound)

end FileSystem
end SimReport
