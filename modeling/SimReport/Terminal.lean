/-
What a terminal shows of a text.  Control sequences, such as those that set a
colour, act instead of being shown, and so does every other control but the
four that space text.
-/
import SimReport.Text

namespace SimReport
namespace Terminal

/-- How far a control sequence has got. -/
inductive State
  | ground
  | escape
  | escapeIntermediate
  | control
  | deviceEntry
  | deviceParameters
  | deviceIntermediate
  /-- Inside a string for a device or an application. -/
  | string
  /-- Inside a command to the terminal's own system. -/
  | command
  deriving DecidableEq

def isSpacing (c : Char) : Bool := c == '\t' || c == '\n' || c == '\x0c' || c == '\r'

/-- The final byte of a string, which may stand inside a wider character too. -/
def endsString (c : Char) : Bool := (Text.toBytes [c]).contains 0x9c

namespace State

/-- A spacing control inside a sequence is shown, and ends it, but inside a
string it belongs to the string. -/
def shows : State → Char → Bool
  | ground, c => isSpacing c || (' ' ≤ c && c != '\x7f')
  | escape, c | escapeIntermediate, c | control, c => isSpacing c
  | _, _ => false

/-- The state behind a character that may continue a sequence. -/
def advance (s : State) (c : Char) : State :=
  match s with
  | ground => ground
  | escape =>
    if ' ' ≤ c ∧ c ≤ '/' then escapeIntermediate
    else if c = '[' then control
    else if c = ']' then command
    else if c = 'P' then deviceEntry
    else if c = 'X' ∨ c = '^' ∨ c = '_' then string
    else if '0' ≤ c ∧ c ≤ '~' then ground
    else escape
  | escapeIntermediate => if '0' ≤ c ∧ c ≤ '~' then ground else escapeIntermediate
  | control => if '@' ≤ c ∧ c ≤ '~' then ground else control
  | deviceEntry =>
    if ' ' ≤ c ∧ c ≤ '/' then deviceIntermediate
    else if '0' ≤ c ∧ c ≤ '?' then deviceParameters
    else if '@' ≤ c ∧ c ≤ '~' then string
    else deviceEntry
  | deviceParameters =>
    if ' ' ≤ c ∧ c ≤ '/' then deviceIntermediate
    else if '<' ≤ c ∧ c ≤ '~' then string
    else deviceParameters
  | deviceIntermediate => if '0' ≤ c ∧ c ≤ '~' then string else deviceIntermediate
  | string => if endsString c then ground else string
  | command => if c = '\x07' then ground else command

/-- Two controls break any sequence off, and an escape begins the next. -/
def next (s : State) (c : Char) : State :=
  if s.shows c ∨ c = '\x18' ∨ c = '\x1a' then ground
  else if c = '\x1b' then escape
  else s.advance c

end State

def shownFrom (s : State) : Text → Text
  | [] => []
  | c :: t => if s.shows c then c :: shownFrom (s.next c) t else shownFrom (s.next c) t

def shown (t : Text) : Text := shownFrom .ground t

/-- Bold text, with all emphasis taken back after it. -/
def bold (t : Text) : Text := "\x1b[1m".toList ++ t ++ "\x1b[0m".toList

def boldUnderlined (t : Text) : Text := "\x1b[1m\x1b[4m".toList ++ t ++ "\x1b[0m".toList

end Terminal
end SimReport
