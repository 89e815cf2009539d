/-
What a program does with files.  Every operation follows links, except that a
directory is not created through one, and that removing a link leaves its target.
-/
import SimReport.FileSystem.Resolve

namespace SimReport

/-- The names that a directory told, and the fault that broke its listing off. -/
structure Listing where
  names : List Name
  fault? : Option IoError := none
  deriving DecidableEq

/-- A file or a device that is open for writing. -/
inductive Handle
  | file (id : Nat)
  | device (d : Device)
  deriving DecidableEq

namespace FileSystem

/-- The entry that a path leads to. -/
def status (fs : FileSystem) (p : Path) : Except IoError Entry :=
  match fs.locate .look p with
  | .error e => .error e
  | .ok (.vacant _) => .error .notFound
  | .ok (.present loc) =>
    match fs.get? loc with
    | some entry => .ok entry
    | none => .error .notFound

/-- The answer is no as well when the entry may not be looked at. -/
def pathExists (fs : FileSystem) (p : Path) : Bool := (fs.status p).isOk

def isFile (fs : FileSystem) (p : Path) : Bool :=
  match fs.status p with
  | .ok (.file _) => true
  | _ => false

def isDirectory (fs : FileSystem) (p : Path) : Bool :=
  match fs.status p with
  | .ok .directory => true
  | _ => false

/-- All bytes of an entry.  The full device has no end, so they cannot be held. -/
def contentOf (fs : FileSystem) : Entry → Except IoError Bytes
  | .file id => .ok (fs.file id).content
  | .directory => .error .isADirectory
  | .device .null => .ok []
  | _ => .error .outOfMemory

def read (fs : FileSystem) (p : Path) : Except IoError Bytes :=
  match fs.locate .look p with
  | .error e => .error e
  | .ok (.vacant _) => .error .notFound
  | .ok (.present loc) =>
    match fs.get? loc, fs.permit (.read loc) with
    | none, _ => .error .notFound
    | some _, .error e => .error e
    | some entry, .ok () => fs.contentOf entry

/-- Tells names in turn, `told` of which are told already. -/
def tell (fs : FileSystem) (directory : Location) (told : Nat) : List Name → Listing
  | [] =>
    match fs.permit (.next directory told) with
    | .error e => ⟨[], some e⟩
    | .ok () => ⟨[], none⟩
  | name :: names =>
    match fs.permit (.next directory told) with
    | .error e => ⟨[], some e⟩
    | .ok () =>
      let rest := tell fs directory (told + 1) names
      { rest with names := name :: rest.names }

def list (fs : FileSystem) (p : Path) : Except IoError Listing :=
  match fs.locate .look p with
  | .error e => .error e
  | .ok (.vacant _) => .error .notFound
  | .ok (.present loc) =>
    if fs.get? loc ≠ some .directory then .error .notADirectory
    else
      match fs.permit (.list loc) with
      | .error e => .error e
      | .ok () => .ok (fs.tell loc 0 (fs.namesIn loc))

/-- The place that the last name of a path has in its directory.  There is none
if the path ends in dots, or is the root. -/
def slot? (fs : FileSystem) (p : Path) : Except IoError (Option Location) :=
  let hops := p.hops.filter (· ≠ .close)
  match hops.getLast? with
  | some (.into name) =>
    match fs.walkFrom .look p hops.dropLast with
    | .error e => .error e
    | .ok (.vacant _) => .error .notFound
    | .ok (.present loc) =>
      match fs.passage loc (.into name) with
      | .error e => .error e
      | .ok () =>
        if maxNameLength < name.bytes.length then .error .nameTooLong
        else .ok (some (name :: loc))
  | _ =>
    match fs.walkFrom .look p hops with
    | .error e => .error e
    | .ok _ => .ok none

/-- Creates an entry under a name that is free. -/
def add (fs : FileSystem) (p : Path) (entry : Entry) : Except IoError FileSystem :=
  match fs.slot? p with
  | .error e => .error e
  | .ok none => .error .alreadyExists
  | .ok (some loc) =>
    match fs.get? loc, fs.permit (.add loc) with
    | some _, _ => .error .alreadyExists
    | none, .error e => .error e
    | none, .ok () => .ok (fs.put loc entry)

def makeDirectory (fs : FileSystem) (p : Path) : Except IoError FileSystem := fs.add p .directory

/-- Creates the first of the paths, and before it the others if it has to be
inside them.  It is no error if the directory is there. -/
def makeAncestors (fs : FileSystem) : List Path → FileSystem × Except IoError Unit
  | [] => (fs, .ok ())
  | p :: above =>
    match fs.makeDirectory p with
    | .ok made => (made, .ok ())
    | .error .notFound =>
      match makeAncestors fs above with
      | (below, .error e) => (below, .error e)
      | (below, .ok ()) =>
        match below.makeDirectory p with
        | .ok made => (made, .ok ())
        | .error e => (below, if below.isDirectory p then .ok () else .error e)
    | .error e => (fs, if fs.isDirectory p then .ok () else .error e)

/-- Creates a directory and those above it that are missing. -/
def makeDirectories (fs : FileSystem) (p : Path) : FileSystem × Except IoError Unit :=
  match checkPath p with
  | .error e => (fs, if p = [] then .ok () else .error e)
  | .ok () => fs.makeAncestors p.ancestors

/-- Opens a file for writing from the start.  A file that exists is emptied, one
that does not is created, at the target of a link that leads nowhere. -/
def openEmpty (fs : FileSystem) (p : Path) : Except IoError (FileSystem × Handle) :=
  match fs.locate .create p with
  | .error e => .error e
  | .ok (.vacant loc) =>
    match fs.permit (.add loc) with
    | .error e => .error e
    | .ok () => .ok ((fs.put loc (.file fs.freshId)).setContent fs.freshId [], .file fs.freshId)
  | .ok (.present loc) =>
    match fs.get? loc, fs.permit (.write loc) with
    | some .directory, _ => .error .isADirectory
    | some (.file _), .error e => .error e
    | some (.file id), .ok () => .ok (fs.setContent id [], .file id)
    | some (.device _), .error e => .error e
    | some (.device d), .ok () => .ok (fs, .device d)
    | _, _ => .error .notFound

/-- What an open file holds so far.  Devices hold nothing. -/
def stored (fs : FileSystem) : Handle → Bytes
  | .file id => (fs.file id).content
  | .device _ => []

def limit? (fs : FileSystem) : Handle → Option Limit
  | .file id => (fs.file id).limit?
  | .device .full => some ⟨0, .noSpace⟩
  | .device .null => none

/-- What is stored in an open file becomes another. -/
def setStored (fs : FileSystem) (content : Bytes) : Handle → FileSystem
  | .file id => fs.setContent id content
  | .device _ => fs

/-- Writes at the end of an open file.  Bytes that it does not take are a fault, and
those in front of them are written all the same. -/
def append (fs : FileSystem) (handle : Handle) (bytes : Bytes) :
    FileSystem × Except IoError Unit :=
  let stored := fs.stored handle
  match fs.limit? handle with
  | none => (fs.setStored (stored ++ bytes) handle, .ok ())
  | some limit =>
    if stored.length + bytes.length ≤ limit.room then
      (fs.setStored (stored ++ bytes) handle, .ok ())
    else
      (fs.setStored (stored ++ bytes.take (limit.room - stored.length)) handle,
        .error limit.fault)

/-- Creates or replaces a file, with the directories above it. -/
def createFile (fs : FileSystem) (p : Path) (content : Bytes) : Except IoError FileSystem :=
  match fs.makeDirectories (p.ancestors.tail.headD []) with
  | (_, .error e) => .error e
  | (fs, .ok ()) =>
    match fs.openEmpty p with
    | .error e => .error e
    | .ok (fs, handle) =>
      match fs.append handle content with
      | (_, .error e) => .error e
      | (fs, .ok ()) => .ok fs

/-- Takes relative paths from the directory that a path leads to. -/
def enter (fs : FileSystem) (p : Path) : FileSystem :=
  match fs.locate .look p with
  | .ok (.present loc) => { fs with workingDirectory := loc }
  | _ => fs

/-- Removes an entry with all below it.  A path that leads nowhere removes nothing. -/
def remove (fs : FileSystem) (p : Path) : FileSystem :=
  match fs.slot? p with
  | .ok (some loc) => fs.clear loc
  | _ => fs

end FileSystem
end SimReport
