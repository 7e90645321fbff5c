import SliceSelection.Text.Likeness

/-!
# Arguments

What may be said on the command line, and what it asks for. An option is spelled with one dash and
a letter or with two dashes and a word; its value follows as the next argument, behind an equals
sign, or right behind the letter. Letters of options without a value may be run together. Two
dashes alone end the options, and nothing may come after them.
-/

namespace SliceSelection.CommandLine

/-- An option. -/
inductive Switch where
  | config | logFile | logLevel | noColor | help | version
deriving DecidableEq, Repr

namespace Switch

/-- All options, in the order of the manual. -/
def all : List Switch := [config, logFile, logLevel, noColor, help, version]

/-- The word of an option. -/
def word : Switch → String
  | config => "config"
  | logFile => "log-file"
  | logLevel => "log-level"
  | noColor => "no-color"
  | help => "help"
  | version => "version"

/-- The letter of an option. -/
def letter : Switch → Char
  | config => 'c'
  | logFile => 'l'
  | logLevel => 'e'
  | noColor => 'm'
  | help => 'h'
  | version => 'V'

/-- What stands for the value of an option in the manual, if it takes one. -/
def placeholder : Switch → Option String
  | config => some "CONFIG"
  | logFile => some "LOG_FILE"
  | logLevel => some "LOG_LEVEL"
  | _ => none

/-- How an option is used. -/
def usage (s : Switch) : String :=
  "--" ++ s.word ++ match s.placeholder with
    | some p => " <" ++ p ++ ">"
    | none => ""

/-- Whether an option takes a value. -/
def takesValue (s : Switch) : Bool := s.placeholder.isSome

/-- A word may have been meant if it is more alike than this. -/
def likenessFloor : Float := 0.7

/-- The option whose word is most like another word, of several the last one, if it may have been
meant. -/
def similar? (word : String) : Option Switch :=
  let likeness (s : Switch) : Float := Text.likeness word s.word
  (all.filter (likenessFloor < likeness ·)).foldl (fun best s =>
    if best.all (likeness · ≤ likeness s) then some s else best) none

end Switch

/-- Why the arguments ask for nothing. -/
inductive UsageError where
  | valueMissing (s : Switch)
  | repeated (s : Switch)
  /-- Told with the options that were set before. -/
  | valueUnneeded (s : Switch) (value : String) (used : List Switch)
  /-- Two dashes and a word that is none of an option, told with the options that were set. -/
  | unknown (word : String) (used : List Switch)
  | unexpected (argument : String)
deriving DecidableEq, Repr

/-- The options of a run. -/
structure Options where
  /-- The file that the settings are read from. -/
  config : String
  logFile : Option String
  logLevel : Option String
  /-- Whether the log is written without colors. -/
  noColor : Bool
deriving DecidableEq, Repr

/-- What the arguments ask for. -/
inductive Request where
  | run (o : Options)
  | help
  | version
deriving DecidableEq, Repr

/-- The file that the settings are read from where none is named. -/
def defaultConfig : String := "/etc/nextgcore/nssf.yaml"

/-! ### Reading -/

/-- The arguments as far as they are read: the options that are set, and one that may still wait
for its value. -/
structure Reading where
  set : List (Switch × String)
  pending : Option (Switch × Option String)
deriving DecidableEq, Repr

namespace Reading

/-- Nothing is read yet. -/
def empty : Reading := ⟨[], none⟩

/-- Set an option, which may be set once. -/
def put (r : Reading) (s : Switch) (value : String) : Except UsageError Reading :=
  if r.set.any (·.1 = s) then .error (.repeated s) else .ok { r with set := r.set ++ [(s, value)] }

/-- Set the option that waits, which has to have its value by now. -/
def settle (r : Reading) : Except UsageError Reading :=
  match r.pending with
  | none => .ok r
  | some (s, none) => .error (.valueMissing s)
  | some (s, some value) => { r with pending := none }.put s value

/-- The options that are set, in this order. -/
def used (r : Reading) : List Switch := r.set.map (·.1)

/-- The options that are set when the one that waits is settled: without a value it is not set,
and if it is repeated it is set no more. -/
def settledUsed (r : Reading) : List Switch :=
  match r.pending with
  | some (s, some _) =>
    if r.used.contains s then r.used.filter (· ≠ s) else r.used ++ [s]
  | _ => r.used

/-- What the options that are set ask for. -/
def options (r : Reading) : Options where
  config := (r.set.lookup .config).getD defaultConfig
  logFile := r.set.lookup .logFile
  logLevel := r.set.lookup .logLevel
  noColor := r.set.any (·.1 = .noColor)

/-- What is asked for when all arguments are read. -/
def conclude (r : Reading) : Except UsageError Request := (r.settle).map fun r => .run r.options

end Reading

/-- What comes of reading a part of the arguments: the rest is to be read, or it does not matter. -/
abbrev Step := Except UsageError (Request ⊕ Reading)

namespace Reading

/-- Read an option without a value. -/
def flag (r : Reading) (s : Switch) : Step := do
  let r ← r.settle
  match s with
  | .help => return .inl .help
  | .version => return .inl .version
  | _ => return .inr (← r.put s "")

/-- Read an option, of which a value may be attached. -/
def valued (r : Reading) (s : Switch) : Option String → Step
  | some value => do return .inr (← (← r.settle).put s value)
  | none => do return .inr { ← r.settle with pending := some (s, none) }

/-- Read what stands behind two dashes. -/
def long (r : Reading) (text : List Char) : Step :=
  let name := String.ofList (text.takeWhile (· ≠ '='))
  let value := match text.dropWhile (· ≠ '=') with
    | [] => none
    | _ :: cs => some (String.ofList cs)
  match Switch.all.find? (·.word == name) with
  | none => .error (.unknown name r.settledUsed)
  | some s =>
    if s.takesValue then r.valued s value
    else match value with
      | some v => .error (.valueUnneeded s v r.used)
      | none => r.flag s

/-- Read the letters behind one dash. -/
def short (r : Reading) : List Char → Step
  | [] => .ok (.inr r)
  | c :: cs =>
    match Switch.all.find? (·.letter == c) with
    | none => .error (.unexpected (String.ofList ['-', c]))
    | some s =>
      if s.takesValue then
        r.valued s (match cs with
          | [] => none
          | '=' :: cs => some (String.ofList cs)
          | cs => some (String.ofList cs))
      else match r.flag s with
        | .ok (.inr r) => r.short cs
        | other => other

/-- Read an argument that is no option: it is the value that is waited for. -/
def plain (r : Reading) (argument : String) : Step :=
  match r.pending with
  | some (s, none) => .ok (.inr { r with pending := some (s, some argument) })
  | _ => .error (.unexpected argument)

/-- Read one argument. -/
def argument (r : Reading) (text : String) : Step :=
  match text.toList with
  | '-' :: '-' :: cs => r.long cs
  | '-' :: c :: cs => r.short (c :: cs)
  | _ => r.plain text

/-- Read all arguments. -/
def arguments (r : Reading) : List String → Except UsageError Request
  | [] => r.conclude
  | text :: rest =>
    if text == "--" then
      match rest with
      | [] => r.conclude
      | next :: _ => .error (.unexpected next)
    else match r.argument text with
      | .error e => .error e
      | .ok (.inl request) => .ok request
      | .ok (.inr r) => r.arguments rest

end Reading

/-- What arguments ask for. -/
def Request.ofArguments (args : List String) : Except UsageError Request :=
  Reading.empty.arguments args

end SliceSelection.CommandLine
