/-
Failures of a run: the cause, and what the run was doing when it arose, from the
outermost activity in.
-/
import SimReport.FileSystem

namespace SimReport

/-- What can go wrong by itself. -/
inductive Cause
  | missingLogDirectory (directory : Path)
  | noFileName
  | io (e : IoError)
  /-- A fault of a file that the table writer met. -/
  | csv (e : IoError)
  | sinkFull
  deriving DecidableEq

namespace Cause

def message : Cause → Text
  | missingLogDirectory directory => directory.quoted ++ " does not exist".toList
  | noFileName => "file name".toList
  | io e => e.message
  | csv e => e.message
  | sinkFull => "sink full".toList

end Cause

inductive Activity
  | parseAll
  | listLogs
  | readDirectory (directory : Path)
  | readEntry
  | parse (log : Path)
  | nameLog
  | read (file : Path)
  | writeLine
  | writeCsv
  | createDirectories (directory : Path)
  | create (file : Path)
  | writeHeader
  | writeRow (id : Text)
  | flush
  deriving DecidableEq

namespace Activity

def message : Activity → Text
  | parseAll => "parse all".toList
  | listLogs => "list logs".toList
  | readDirectory directory => "read dir ".toList ++ directory.quoted
  | readEntry => "dir entry".toList
  | parse log => "parse ".toList ++ log.quoted
  | nameLog => "log file name".toList
  | read file => "read ".toList ++ file.quoted
  | writeLine => "write".toList
  | writeCsv => "write csv".toList
  | createDirectories directory => "create_dir_all ".toList ++ directory.quoted
  | create file => "create ".toList ++ file.quoted
  | writeHeader => "write header".toList
  | writeRow id => "write row ".toList ++ id.quoted
  | flush => "flush".toList

end Activity

structure Failure where
  during : List Activity
  cause : Cause
  deriving DecidableEq

inductive FailureKind
  | configuration
  | csv
  | io
  | other
  deriving DecidableEq

namespace Failure

/-- The failure as seen from an activity that it ended. -/
def within (activity : Activity) (f : Failure) : Failure :=
  { f with during := activity :: f.during }

def messages (f : Failure) : List Text := f.during.map Activity.message ++ [f.cause.message]

def message (f : Failure) : Text := Text.joinWith ": ".toList f.messages

def kind (f : Failure) : FailureKind :=
  match f.cause with
  | .missingLogDirectory _ => .configuration
  | .csv _ => .csv
  | .io _ => .io
  | .sinkFull => .io
  | .noFileName => .other

/-- The kind of a failure is that of its cause, however deep the cause lies. -/
@[simp] theorem kind_within (activity : Activity) (f : Failure) :
    (f.within activity).kind = f.kind := rfl

end Failure
end SimReport
