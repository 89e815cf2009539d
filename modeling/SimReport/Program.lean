/-
The whole program as a function: from its arguments, its environment and the
files to what it prints, the files it leaves, and its exit code.
-/
import SimReport.CommandLine.Messages
import SimReport.CommandLine.Reader
import SimReport.Filter.Reader
import SimReport.Run.Report

namespace SimReport

/-- The environment variables that matter, and whether the output is a terminal. -/
structure Environment where
  logFilter : Option Text := none
  noColor : Option Text := none
  cliColor : Option Text := none
  forceColor : Option Text := none
  terminal : Bool := false
  deriving DecidableEq

namespace Environment

/-- Colour is shown if it is forced, else unless it is refused, on a terminal. -/
def showsColour (env : Environment) : Bool :=
  match env.forceColor with
  | some force => if force ≠ ['0'] then true else unforced
  | none => unforced
where
  unforced : Bool :=
    env.noColor.isNone && env.terminal && env.cliColor ≠ some ['0']

/-- How help is marked up.  Markup follows the same three variables as colour, but
here an empty one counts as absent, and refusal comes before force. -/
def markup (env : Environment) : CommandLine.Markup :=
  let isSet (setting : Option Text) : Bool := setting.any fun value => !value.isEmpty
  if isSet env.noColor then .plain
  else if isSet env.forceColor || (env.terminal && env.cliColor ≠ some ['0']) then .emphatic
  else .plain

/-- The filter that the environment asks for, or the usual one. -/
def filter (env : Environment) (verbose : Bool) : Filter :=
  let usual := Filter.upTo (if verbose then .debug else .warn)
  (env.logFilter.bind Filter.read?).getD usual

end Environment

/-- A printed line or text goes to one of two streams. -/
structure Ending where
  exit : Nat
  output : Text
  diagnostics : List Text
  files : FileSystem

namespace Program

/-- The event that tells how a run ended. -/
def closingEvent? : Except Failure Outcome → Option Event
  | .ok (.passed file) => some (.wroteReport file)
  | .ok (.failed ids) => some (.gateFailed ids)
  | .error _ => none

/-- The causes below the outermost message, numbered if there are several. -/
def causeLines : List Text → List Text
  | [] => []
  | [cause] => [[], "Caused by:".toList, "    ".toList ++ cause]
  | causes =>
    [[], "Caused by:".toList] ++
      (causes.zipIdx.map fun (cause, i) => padLeft 5 (Text.ofNat i) ++ ": ".toList ++ cause)

def failureLines (f : Failure) : List Text :=
  match f.messages with
  | [] => []
  | outermost :: causes => ("Error: ".toList ++ outermost) :: causeLines causes

def errorLines : Except Failure Outcome → List Text
  | .ok _ => []
  | .error f => failureLines f

def runOf (arguments : Arguments) : Run :=
  { suite := arguments.suite, directory := arguments.path }

def runWith (arguments : Arguments) (env : Environment) (fs : FileSystem) : Ending :=
  let palette : Palette := ⟨!arguments.noColor, env.showsColour⟩
  let (events, finished) := (runOf arguments).execute { palette } fs
  let filter := env.filter arguments.verbose
  let told := (events ++ (closingEvent? finished.outcome).toList).filter filter.tells
  { exit := exitCode finished.outcome
    output := finished.console.text
    diagnostics := told.map Event.line ++ errorLines finished.outcome
    files := finished.files }

def exitOfStop : Stop → Nat
  | .inquiry _ => 0
  | .error _ => 2

/-- The first of the arguments is the program's name. -/
def run (argv : List Bytes) (env : Environment) (fs : FileSystem) : Ending :=
  match CommandLine.read argv.tail with
  | .ok arguments => runWith arguments env fs
  | .error stop =>
    { exit := exitOfStop stop
      output := CommandLine.stopText env.markup (CommandLine.programName argv) stop
      diagnostics := []
      files := fs }

end Program
end SimReport
