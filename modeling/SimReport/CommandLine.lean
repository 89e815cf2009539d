/-
The command line: what may be asked for, and the ways in which an argument
vector fails to ask for it.  Arguments are byte strings, and need not be text.
-/
import SimReport.Path

namespace SimReport

/-- An option that takes a value, and has to be given. -/
inductive Setting
  | suite
  | path
  deriving DecidableEq

/-- An option without a value. -/
inductive Switch
  | noColor
  | verbose
  deriving DecidableEq

/-- A question about the program itself, answered instead of running it. -/
inductive Inquiry
  | help
  | version
  deriving DecidableEq

inductive CommandOption
  | setting (s : Setting)
  | switch (s : Switch)
  | inquiry (q : Inquiry)
  deriving DecidableEq

structure Arguments where
  suite : Text
  path : Path
  noColor : Bool
  verbose : Bool
  deriving DecidableEq

/-- What is wrong with an argument vector, in words that can be shown.  Where it
matters for what is told, it says which options were `given` up to the fault. -/
inductive UsageError
  | unknownArgument (argument : Text)
  | unknownOption (name : Text) (given : List CommandOption)
  /-- A value was attached to an option that takes none. -/
  | unexpectedValue (option : CommandOption) (value : Text) (given : List CommandOption)
  | missingValue (setting : Setting)
  /-- A suite is no text. -/
  | invalidText
  | repeated (option : CommandOption)
  | missingSettings (settings : List Setting) (given : List CommandOption)
  deriving DecidableEq

/-- Why reading arguments stops before their end is reached, or at it. -/
inductive Stop
  | inquiry (q : Inquiry)
  | error (e : UsageError)
  deriving DecidableEq

namespace CommandOption

def isSetting : CommandOption → Bool
  | setting _ => true
  | _ => false

def isInquiry : CommandOption → Bool
  | inquiry _ => true
  | _ => false

def name : CommandOption → Text
  | setting .suite => "suite".toList
  | setting .path => "path".toList
  | switch .noColor => "no-color".toList
  | switch .verbose => "verbose".toList
  | inquiry .help => "help".toList
  | inquiry .version => "version".toList

def letter? : CommandOption → Option Char
  | setting .suite => some 's'
  | setting .path => some 'p'
  | switch .noColor => none
  | switch .verbose => some 'v'
  | inquiry .help => some 'h'
  | inquiry .version => some 'V'

def all : List CommandOption :=
  [setting .suite, setting .path, switch .noColor, switch .verbose, inquiry .help,
    inquiry .version]

def ofName? (name : Bytes) : Option CommandOption := all.find? fun o => o.name.toBytes = name

def ofLetter? (b : UInt8) : Option CommandOption :=
  all.find? fun o => o.letter?.map (fun c => Text.toBytes [c]) = some [b]

def placeholder : CommandOption → Text
  | setting s => " <".toList ++ (setting s).name.map Char.toUpper ++ ['>']
  | _ => []

def long (o : CommandOption) : Text := "--".toList ++ o.name

/-- How messages call the option. -/
def display (o : CommandOption) : Text := o.long ++ o.placeholder

end CommandOption
end SimReport
