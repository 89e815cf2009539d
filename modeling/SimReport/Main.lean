/-
The program on a real machine.  What the run could look at is read from the
disk, the run is computed, and a report file that it writes is stored.
-/
import SimReport.Program

open SimReport

namespace SimReport
namespace Disk

def nameOf (p : Path) : String := String.ofList p.display

/-- What stands at a path, links followed. -/
def kind? (p : Path) : IO (Option IO.FS.FileType) := do
  let here ← IO.currentDir
  try
    let metadata ← (here / nameOf p).metadata
    return some metadata.type
  catch _ => return none

/-- What was asked of the place that a path leads to has failed, and will again. -/
def refuse (fs : FileSystem) (p : Path) (request : Location → Request) (e : IO.Error) :
    FileSystem :=
  match fs.locate .look p with
  | .ok (.present loc) =>
    let reason := (toString e).toList
    { fs with refusal? := fun r => if r = request loc then some reason else fs.refusal? r }
  | _ => fs

/-- Adds a file with its content, if that can be read. -/
def addFile (fs : FileSystem) (p : Path) : IO FileSystem := do
  let here ← IO.currentDir
  let create (content : Bytes) : FileSystem := (fs.createFile p content).toOption.getD fs
  try
    return create (← IO.FS.readBinFile (here / nameOf p)).toList
  catch e =>
    return refuse (create []) p .read e

/-- Adds an entry of the log directory.  Of what is no file only its being there is
seen, and a link that leads nowhere leads to itself. -/
def addEntry (fs : FileSystem) (p : Path) : IO FileSystem := do
  match ← kind? p with
  | none => return (fs.add p (.link p)).toOption.getD fs
  | some .file => addFile fs p
  | some _ => return (fs.makeDirectories p).1

def addLogs (fs : FileSystem) (directory : Path) : IO FileSystem := do
  let here ← IO.currentDir
  match ← kind? directory with
  | none => return fs
  | some .dir =>
    let mut fs := (fs.makeDirectories directory).1
    try
      for entry in ← (here / nameOf directory).readDir do
        fs ← addEntry fs (directory.join (.ofText entry.fileName.toList))
      return fs
    catch e =>
      return refuse fs directory .list e
  | some _ => return (fs.createFile directory []).toOption.getD fs

/-- Adds what a report is written to.  A device shows what it takes when the report
is stored. -/
def addOutput (fs : FileSystem) (p : Path) : IO FileSystem := do
  match ← kind? p with
  | none => return fs
  | some .dir => return (fs.makeDirectories p).1
  | some _ => return (fs.createFile p []).toOption.getD fs

/-- The files that a run may look at. -/
def load (run : Run) : IO FileSystem := do
  let fs ← addLogs .empty run.logDirectory
  let fs ← addOutput fs run.outputDirectory
  addOutput fs run.reportFile

/-- Stores the report file that a run has written. -/
def store (run : Run) (fs : FileSystem) : IO Unit := do
  if let .ok content := fs.read run.reportFile then
    let here ← IO.currentDir
    IO.FS.createDirAll (here / nameOf run.outputDirectory)
    IO.FS.writeBinFile (here / nameOf run.reportFile) ⟨content.toArray⟩

def environment : IO Environment := do
  let get (name : String) : IO (Option Text) := return (← IO.getEnv name).map String.toList
  return {
    logFilter := ← get "RUST_LOG"
    noColor := ← get "NO_COLOR"
    cliColor := ← get "CLICOLOR"
    forceColor := ← get "CLICOLOR_FORCE"
    terminal := ← (← IO.getStdout).isTty }

end Disk
end SimReport

def main (arguments : List String) : IO UInt32 := do
  let program := (← IO.appPath).fileName.getD ""
  let argv := (program :: arguments).map fun argument => Text.toBytes argument.toList
  let env ← Disk.environment
  let run? := (CommandLine.read argv.tail).toOption.map Program.runOf
  let before ← match run? with
    | some run => Disk.load run
    | none => pure .empty
  let ending := Program.run argv env before
  IO.print (String.ofList ending.output)
  for line in ending.diagnostics do
    IO.eprintln (String.ofList line)
  match run? with
  | some run =>
    if ending.exit = 0 then
      try
        Disk.store run ending.files
      catch e =>
        IO.eprintln (toString e)
        return 1
  | none => pure ()
  return ending.exit.toUInt32
