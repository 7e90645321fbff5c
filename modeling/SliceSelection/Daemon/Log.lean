import SliceSelection.Text.Substring

/-!
# The log

A line of the log has a level, and lines above a level that is set are left out.
-/

namespace SliceSelection.Daemon

/-- The level of a line. -/
inductive Level where
  | error | warn | info | debug | trace
deriving DecidableEq, Repr

namespace Level

/-- All levels, the gravest first. -/
def all : List Level := [error, warn, info, debug, trace]

/-- The name of a level. -/
def name : Level → String
  | error => "ERROR"
  | warn => "WARN"
  | info => "INFO"
  | debug => "DEBUG"
  | trace => "TRACE"

/-- How much a level tells: the graver, the less. -/
def rank : Level → Nat
  | error => 1
  | warn => 2
  | info => 3
  | debug => 4
  | trace => 5

/-- The level that a text names in small or capital letters; any other text names the middle one. -/
def ofText (s : String) : Level :=
  (all.find? fun l => Text.asciiLowercase l.name == Text.asciiLowercase s).getD info

end Level

/-- A line of the log. -/
structure Line where
  level : Level
  message : String
deriving DecidableEq, Repr

namespace Line

/-- How a line is written: the names of the levels fill one column. -/
def text (l : Line) : String :=
  "[" ++ l.level.name ++ String.ofList (List.replicate (5 - l.level.name.length) ' ') ++
    " nextgcore_nssfd] " ++ l.message ++ "\n"

end Line

/-- The lines up to a level. -/
def upTo (level : Level) (lines : List Line) : List Line :=
  lines.filter fun l => l.level.rank ≤ level.rank

end SliceSelection.Daemon
