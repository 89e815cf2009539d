/-
What the program says about its command line.
-/
import SimReport.CommandLine.Suggestion
import SimReport.Terminal

namespace SimReport
namespace CommandLine

def defaultName : Text := "bench-report".toList

/-- The program calls itself by the last name in the path it was started by, if
that is text. -/
def programName (argv : List Bytes) : Text :=
  ((argv.head?.bind Path.fileName?).bind Utf8.decode?).getD defaultName

def purpose : CommandOption → Text
  | .setting .suite => "Benchmark suite name".toList
  | .setting .path =>
    "Run directory. Logs are read from `<path>/logs/sim`, ".toList ++
      "the report is written to `<path>/output/benchmarks.csv`".toList
  | .switch .noColor => "Disable colored output".toList
  | .switch .verbose => "Log diagnostics to stderr".toList
  | .inquiry .help => "Print help".toList
  | .inquiry .version => "Print version".toList

/-- How names that can be typed, and headings, stand out from the rest of a text. -/
structure Markup where
  literal : Text → Text
  heading : Text → Text

namespace Markup

/-- Nothing stands out, and nothing but the characters of a name is shown. -/
def plain : Markup := ⟨Terminal.shown, Terminal.shown⟩

def emphatic : Markup := ⟨Terminal.bold, Terminal.boldUnderlined⟩

def option (m : Markup) (o : CommandOption) : Text := m.literal o.long ++ o.placeholder

def usageLine (m : Markup) (program : Text) (arguments : List Text) : Text :=
  m.heading "Usage:".toList ++ [' '] ++ m.literal program ++
    arguments.flatMap (fun t => ' ' :: t) ++ ['\n']

def settings (m : Markup) : List Text := (CommandOption.all.filter (·.isSetting)).map m.option

def usage (m : Markup) (program : Text) : Text :=
  m.usageLine program ("[OPTIONS]".toList :: m.settings)

/-- The usage line that shows both settings, and these options. -/
def usageWith (m : Markup) (program : Text) (options : List CommandOption) : Text :=
  m.usageLine program (m.settings ++ (options.filter (!·.isSetting)).map m.option)

/-- The usage line that leaves the choice of what to run with, and shows these inquiries. -/
def usageChoice (m : Markup) (program : Text) (inquiries : List CommandOption) : Text :=
  let choice := (CommandOption.all.filter (!·.isInquiry)).map m.option
  m.usageLine program
    (inquiries.map m.option ++ ['<' :: ['|'].intercalate choice ++ ['>']])

/-- An option in the list of options.  What they are for stands in one column. -/
def listed (m : Markup) (o : CommandOption) : Text :=
  let letter := match o.letter? with
    | some c => "  ".toList ++ m.literal ['-', c] ++ ", ".toList
    | none => "      ".toList
  letter ++ m.option o ++ List.replicate (17 - o.display.length) ' ' ++ purpose o ++ ['\n']

def help (m : Markup) (program : Text) : Text :=
  "Summarizes simulator benchmark logs into a pass/fail report and a CSV table\n\n".toList ++
    m.usage program ++ ['\n'] ++ m.heading "Options:".toList ++ ['\n'] ++
    CommandOption.all.flatMap m.listed

end Markup

def hint : Text := "\nFor more information, try '--help'.\n".toList

def versionText : Text := "bench-report 0.1.0\n".toList

/-- The usage line after a fault: it shows the options given, if any are. -/
def usageGiven (program : Text) (given : List CommandOption) : Text :=
  if given.isEmpty then Markup.plain.usage program else Markup.plain.usageWith program given

def tip (o : CommandOption) : Text :=
  "  tip: a similar argument exists: '".toList ++ o.long ++ "'\n\n".toList

def unexpected (argument : Text) : Text :=
  "error: unexpected argument '".toList ++ Terminal.shown argument ++ "' found\n\n".toList

/-- Errors are told without markup, and what was typed as a terminal shows it. -/
def errorText (program : Text) : UsageError → Text
  | .unknownArgument argument => unexpected argument ++ Markup.plain.usage program ++ hint
  | .unknownOption name given =>
    let suggested := (CommandOption.suggestion? name).toList
    unexpected ("--".toList ++ name) ++ suggested.flatMap tip ++
      usageGiven program (given ++ suggested.filter (!given.contains ·)) ++ hint
  | .unexpectedValue option value given =>
    "error: unexpected value '".toList ++ Terminal.shown value ++ "' for '".toList ++
      option.display ++ "' found; no more were expected\n\n".toList ++
      (if given.isEmpty then Markup.plain.usageWith program [option]
        else Markup.plain.usageChoice program ([option].filter (·.isInquiry))) ++ hint
  | .missingValue setting =>
    "error: a value is required for '".toList ++ (CommandOption.setting setting).display ++
      "' but none was supplied\n".toList ++ hint
  | .invalidText =>
    "error: invalid UTF-8 was detected in one or more arguments\n\n".toList ++
      Markup.plain.usage program ++ hint
  | .repeated option =>
    "error: the argument '".toList ++ option.display ++
      "' cannot be used multiple times\n\n".toList ++ Markup.plain.usage program ++ hint
  | .missingSettings settings given =>
    "error: the following required arguments were not provided:\n".toList ++
      settings.flatMap (fun s => "  ".toList ++ (CommandOption.setting s).display ++ ['\n']) ++
      ['\n'] ++ Markup.plain.usageWith program given ++ hint

/-- What is told when reading stops.  Only an answer to an inquiry is marked up. -/
def stopText (markup : Markup) (program : Text) : Stop → Text
  | .inquiry .help => markup.help program
  | .inquiry .version => versionText
  | .error e => errorText program e

end CommandLine
end SimReport
