/-
Where a path leads.  A path is walked hop by hop from the root or the working
directory; a link met on the way is replaced by its target, at most forty times.
-/
import SimReport.FileSystem

namespace SimReport

/-- The move that a piece of a path asks for.  An empty piece asks for none. -/
def Hop.ofPiece? (piece : Bytes) : Option Hop :=
  if piece = Path.dot then some .stay
  else if piece = Path.dotDot then some .up
  else (Name.ofBytes? piece).map .into

def Path.hops (p : Path) : List Hop :=
  p.pieces.filterMap Hop.ofPiece? ++
    (if p.getLast? = some Path.separator then [.close] else [])

/-- What a walk reaches: an entry, or a free name in a directory. -/
inductive Place
  | present (loc : Location)
  | vacant (loc : Location)
  deriving DecidableEq

/-- A file can only be created under a name that no separator follows. -/
inductive Purpose
  | look
  | create
  deriving DecidableEq

namespace FileSystem

def maxNameLength : Nat := 255

def maxPathLength : Nat := 4095

def maxLinks : Nat := 40

/-- Whether a walk may take a hop from a place.  All hops ask for a directory, and
all but a separator at the end for the right to go on from it. -/
def passage (fs : FileSystem) (loc : Location) (hop : Hop) : Except IoError Unit :=
  if fs.get? loc ≠ some .directory then .error .notADirectory
  else if hop = .close then .ok ()
  else fs.permit (.pass loc hop)

/-- Walks from an entry.  `follow` goes on from the directory of a link with the
link's target and the hops that remain. -/
def walkWith (fs : FileSystem) (purpose : Purpose)
    (follow : Location → Path → List Hop → Except IoError Place) :
    Location → List Hop → Except IoError Place
  | loc, [] => .ok (.present loc)
  | loc, hop :: rest =>
    match fs.passage loc hop with
    | .error e => .error e
    | .ok () =>
      match hop with
      | .stay | .close => walkWith fs purpose follow loc rest
      | .up => walkWith fs purpose follow loc.tail rest
      | .into name =>
        if purpose = .create ∧ rest = [.close] then .error .isADirectory
        else if maxNameLength < name.bytes.length then .error .nameTooLong
        else
          match fs.get? (name :: loc) with
          | none => if rest = [] then .ok (.vacant (name :: loc)) else .error .notFound
          | some (.link target) => follow loc target rest
          | some _ => walkWith fs purpose follow (name :: loc) rest

/-- Where the walk of a path begins. -/
def origin (p : Path) (base : Location) : Location := if p.isAbsolute then [] else base

/-- Walks with a number of links that may still be followed. -/
def walk (fs : FileSystem) (purpose : Purpose) : Nat → Location → List Hop → Except IoError Place
  | 0 => walkWith fs purpose fun _ _ _ => .error .tooManyLinks
  | links + 1 => walkWith fs purpose fun loc target rest =>
      walk fs purpose links (origin target loc) (target.hops ++ rest)

/-- Some paths name nothing whatever the file system holds. -/
def checkPath (p : Path) : Except IoError Unit :=
  if p.contains 0 then .error .nulByte
  else if p = [] then .error .notFound
  else if maxPathLength < p.length then .error .nameTooLong
  else .ok ()

/-- Where the hops lead from the place at which the path begins. -/
def walkFrom (fs : FileSystem) (purpose : Purpose) (p : Path) (hops : List Hop) :
    Except IoError Place :=
  match checkPath p with
  | .error e => .error e
  | .ok () => fs.walk purpose maxLinks (origin p fs.workingDirectory) hops

def locate (fs : FileSystem) (purpose : Purpose) (p : Path) : Except IoError Place :=
  fs.walkFrom purpose p p.hops

end FileSystem
end SimReport
