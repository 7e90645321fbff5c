import SliceSelection.CommandLine.Arguments

/-!
# The manual

What is said about the program when it is asked, and what is said when it was called in a wrong
way.
-/

namespace SliceSelection.CommandLine

/-- The name of the program. -/
def program : String := "nextgcore-nssfd"

/-- The version of the program. -/
def programVersion : String := "0.1.0"

/-- The line that tells the version. -/
def versionText : String := program ++ " " ++ programVersion ++ "\n"

/-- What an option does. -/
def Switch.purpose : Switch → String
  | .config => "Configuration file path [default: " ++ defaultConfig ++ "]"
  | .logFile => "Log file path (logs are written to stderr)"
  | .logLevel => "Log level (trace, debug, info, warn, error); overrides logger.level"
  | .noColor => "Disable color output"
  | .help => "Print help"
  | .version => "Print version"

/-- A text filled up with blanks to a width. -/
def padded (width : Nat) (s : String) : String :=
  s ++ String.ofList (List.replicate (width - s.length) ' ')

/-- The line of an option in the manual: the purposes stand in one column. -/
def Switch.line (s : Switch) : String :=
  let width := (Switch.all.map (·.usage.length)).foldl max 0
  "  -" ++ s.letter.toString ++ ", " ++ padded width s.usage ++ "  " ++ s.purpose ++ "\n"

/-- How the program is called. -/
def usageText (what : String) : String := "Usage: " ++ program ++ " " ++ what ++ "\n"

/-- The manual. -/
def helpText : String :=
  "5G Core Network Slice Selection Function\n\n" ++ usageText "[OPTIONS]" ++ "\nOptions:\n" ++
    String.join (Switch.all.map Switch.line)

/-- What is wrong with the arguments. -/
def UsageError.message : UsageError → String
  | .valueMissing s => "a value is required for '" ++ s.usage ++ "' but none was supplied"
  | .repeated s => "the argument '" ++ s.usage ++ "' cannot be used multiple times"
  | .valueUnneeded s value _ =>
    "unexpected value '" ++ value ++ "' for '" ++ s.usage ++ "' found; no more were expected"
  | .unknown word _ => "unexpected argument '--" ++ word ++ "' found"
  | .unexpected argument => "unexpected argument '" ++ argument ++ "' found"

/-- How the program is called with options. -/
def usageOf (used : List Switch) : String :=
  usageText (if used.isEmpty then "[OPTIONS]" else " ".intercalate (used.map Switch.usage)) ++ "\n"

/-- Options with one more. -/
def withOption (used : List Switch) (s : Switch) : List Switch :=
  if used.contains s then used else used ++ [s]

/-- An option that may have been meant. -/
def tipText (s : Switch) : String :=
  "  tip: a similar argument exists: '--" ++ s.word ++ "'\n\n"

/-- How the program should have been called, where that helps. -/
def UsageError.hint : UsageError → String
  | .valueMissing _ => ""
  | .valueUnneeded s _ used => usageOf (withOption used s)
  | .unknown word used =>
    match Switch.similar? word with
    | some s => tipText s ++ usageOf (withOption used s)
    | none => usageOf used
  | _ => usageOf []

/-- The whole complaint about the arguments. -/
def UsageError.text (e : UsageError) : String :=
  "error: " ++ e.message ++ "\n\n" ++ e.hint ++ "For more information, try '--help'.\n"

end SliceSelection.CommandLine
