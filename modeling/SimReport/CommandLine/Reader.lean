/-
Reading an argument vector.  Arguments are taken in turn and the first fault
ends the reading.  The value of an option may stand in the argument after it;
such a value is checked when the next option, or the end, shows that it is
complete, so an unknown argument behind it is the fault that is reported.
-/
import SimReport.CommandLine

namespace SimReport
namespace CommandLine

@[match_pattern] abbrev dash : UInt8 := 0x2d

@[match_pattern] abbrev equals : UInt8 := 0x3d

/-- A setting whose value is not attached to it, and the value once it is seen. -/
structure Pending where
  setting : Setting
  value : Option Bytes := none
  deriving DecidableEq

/-- What the arguments read so far have given, the switches in their order. -/
structure Progress where
  suite : Option Text := none
  path : Option Path := none
  switches : List Switch := []
  pending : Option Pending := none
  deriving DecidableEq

namespace Progress

def value? (p : Progress) : Setting → Option Bytes
  | .suite => p.suite.map Text.toBytes
  | .path => p.path

def isGiven (p : Progress) (s : Switch) : Bool := p.switches.contains s

/-- The options given, settings before switches.  The setting that waits is among
them once its value is seen, unless it had one before: given twice, it is not given. -/
def given (p : Progress) : List CommandOption :=
  let waits (s : Setting) := p.pending.any fun w => w.setting = s && w.value.isSome
  let settings := [Setting.suite, .path].filter fun s => (p.value? s).isSome != waits s
  settings.map .setting ++ p.switches.map .switch

/-- Gives a setting its value.  No setting is given twice, a suite is text, and no
path is empty. -/
def assign (p : Progress) (s : Setting) (value : Bytes) : Except Stop Progress :=
  if (p.value? s).isSome then .error (.error (.repeated (.setting s)))
  else
    match s with
    | .suite =>
      match Utf8.decode? value with
      | none => .error (.error .invalidText)
      | some suite => .ok { p with suite := some suite }
    | .path =>
      if value.isEmpty then .error (.error (.missingValue .path))
      else .ok { p with path := some value }

def raise (p : Progress) (s : Switch) : Except Stop Progress :=
  if p.isGiven s then .error (.error (.repeated (.switch s)))
  else .ok { p with switches := p.switches ++ [s] }

def settle (p : Progress) : Except Stop Progress :=
  match p.pending with
  | none => .ok p
  | some ⟨s, none⟩ => .error (.error (.missingValue s))
  | some ⟨s, some value⟩ => { p with pending := none }.assign s value

/-- Takes an option, with the value attached to it if there is one. -/
def take (p : Progress) (o : CommandOption) (attached : Option Bytes) : Except Stop Progress := do
  let p ← p.settle
  match o, attached with
  | .setting s, some value => p.assign s value
  | .setting s, none => .ok { p with pending := some ⟨s, none⟩ }
  | .switch s, _ => p.raise s
  | .inquiry q, _ => .error (.inquiry q)

end Progress

/-- The part before the first equals sign, and the part after it. -/
def splitEquals (argument : Bytes) : Bytes × Option Bytes :=
  match argument.dropWhile (· != equals) with
  | [] => (argument, none)
  | _ :: value => (argument.takeWhile (· != equals), some value)

/-- An argument that begins with two dashes.  A value that is out of place is found
before the setting that waits is looked at. -/
def readLong (p : Progress) (body : Bytes) : Except Stop Progress :=
  let (name, attached) := splitEquals body
  match CommandOption.ofName? name, attached with
  | none, _ => .error (.error (.unknownOption (Utf8.decodeLossy name) p.given))
  | some (.setting s), attached => p.take (.setting s) attached
  | some o, none => p.take o none
  | some o, some value =>
    let given := { p with pending := none }.given
    .error (.error (.unexpectedValue o (Utf8.decodeLossy value) given))

/-- Letters that are no option: the first of them, or all if that is broken. -/
def unknownLetters (letters : Bytes) : Text :=
  match Utf8.scan letters with
  | .scalar c :: _ => ['-', c]
  | _ => '-' :: Utf8.decodeLossy letters

/-- The letters of an argument that begins with one dash.  What follows the
letter of a setting is its value, with or without an equals sign between. -/
def readLetters (p : Progress) : Bytes → Except Stop Progress
  | [] => .ok p
  | b :: rest =>
    match CommandOption.ofLetter? b with
    | none => .error (.error (.unknownArgument (unknownLetters (b :: rest))))
    | some (.setting s) =>
      match rest with
      | [] => p.take (.setting s) none
      | equals :: value => p.take (.setting s) (some value)
      | value => p.take (.setting s) (some value)
    | some o => do
      let p ← p.take o none
      readLetters p rest

/-- An argument that is no option: the value of the setting before it, if that
still waits for one. -/
def readPlain (p : Progress) (argument : Bytes) : Except Stop Progress :=
  match p.pending with
  | some ⟨s, none⟩ => .ok { p with pending := some ⟨s, some argument⟩ }
  | _ => .error (.error (.unknownArgument (Utf8.decodeLossy argument)))

/-- Reads arguments in turn.  Two dashes end the options, and nothing may follow. -/
def readAll (p : Progress) : List Bytes → Except Stop Progress
  | [] => .ok p
  | [dash, dash] :: [] => .ok p
  | [dash, dash] :: argument :: _ =>
    .error (.error (.unknownArgument (Utf8.decodeLossy argument)))
  | (dash :: dash :: body) :: rest => do
    let p ← readLong p body
    readAll p rest
  | (dash :: b :: letters) :: rest => do
    let p ← readLetters p (b :: letters)
    readAll p rest
  | argument :: rest => do
    let p ← readPlain p argument
    readAll p rest

/-- What the arguments ask for, once all are read. -/
def Progress.finish (p : Progress) : Except Stop Arguments := do
  let p ← p.settle
  match p.suite, p.path with
  | some suite, some path => .ok ⟨suite, path, p.isGiven .noColor, p.isGiven .verbose⟩
  | _, _ =>
    let missing := [Setting.suite, .path].filter fun s => (p.value? s).isNone
    .error (.error (.missingSettings missing p.given))

/-- Reads the arguments after the program's name. -/
def read (arguments : List Bytes) : Except Stop Arguments := do
  let p ← readAll {} arguments
  p.finish

end CommandLine
end SimReport
