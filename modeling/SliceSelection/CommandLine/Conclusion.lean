import SliceSelection.CommandLine.Manual
import SliceSelection.Daemon.Journal
import SliceSelection.Settings.Document

/-!
# Conclusions

What a call of the program comes to: the status it exits with, and what it writes. The files that
can be read, what the environment says and the peer at the other end are given from outside.
-/

namespace SliceSelection.CommandLine

/-- What the program finds around it. -/
structure Surroundings where
  /-- The text of a file, or why it can not be read. -/
  file : String → Except String String
  hostname : Option String
  instanceId : String
  restartCounter : UInt32
  peer : Http.Outgoing → Http.Reply

/-- What a call comes to. -/
structure Conclusion where
  status : UInt32
  stdout : String
  /-- What is written about a failure. -/
  complaint : String
  log : List Daemon.Line
deriving DecidableEq, Repr

/-- A text whose further lines are set in by a number of blanks. -/
def indented (blanks : Nat) (s : String) : String :=
  String.ofList (s.toList.flatMap fun c =>
    if c = '\n' then '\n' :: List.replicate blanks ' ' else [c])

/-- One cause: the causes are numbered where there is more than one. -/
def causeText (cause : String) : Option Nat → String
  | none => "    " ++ indented 4 cause
  | some n => "    " ++ toString n ++ ": " ++ indented 7 cause

/-- What has failed, and through what. -/
def failureText (what : String) (causes : List String) : String :=
  "Error: " ++ what ++ "\n\nCaused by:\n" ++
    String.join (causes.zipIdx.map fun (cause, n) =>
      causeText cause (if causes.length = 1 then none else some n) ++ "\n")

/-- The causes that an error names, the outermost first. -/
def errorCauses (e : Settings.Error) : List String :=
  match e with
  | .unreadable reason => [e.message, reason]
  | .unparsable reason => [e.message, reason]
  | _ => [e.message]

/-- The settings in a file. -/
def loadSettings (s : Surroundings) (path : String) : Except Settings.Error Settings :=
  match s.file path with
  | .error reason => .error (.unreadable reason)
  | .ok text => Settings.parse text

/-- The level of the log: the one on the command line goes before the one in the settings. -/
def logLevel (o : Options) (settings : Settings) : Daemon.Level :=
  .ofText ((o.logLevel.or settings.logLevel).getD "info")

/-- Run the daemon. -/
def runDaemon (s : Surroundings) (o : Options) : Conclusion :=
  match loadSettings s o.config with
  | .error e =>
    ⟨1, "", failureText ("Failed to load configuration from " ++ o.config) (errorCauses e), []⟩
  | .ok settings =>
    let launch : Daemon.Launch := {
      version := programVersion
      path := o.config
      logFile := o.logFile
      settings := settings
      instanceId := s.instanceId
      subscription := ⟨s.restartCounter, SliceStream.clientIdOf s.hostname⟩ }
    ⟨0, "", "", Daemon.upTo (logLevel o settings) (Daemon.journal launch s.peer)⟩

/-- What a call with arguments comes to. -/
def conclude (s : Surroundings) (args : List String) : Conclusion :=
  match Request.ofArguments args with
  | .error e => ⟨2, "", e.text, []⟩
  | .ok .help => ⟨0, helpText, "", []⟩
  | .ok .version => ⟨0, versionText, "", []⟩
  | .ok (.run o) => runDaemon s o

namespace Conclusion

/-- What is written to the error output. -/
def stderr (c : Conclusion) : String := c.complaint ++ String.join (c.log.map (·.text))

/-- The level of the first line of the log that contains a text. -/
def levelOf? (c : Conclusion) (text : String) : Option Daemon.Level :=
  (c.log.find? fun l => Text.occurs text l.text).map (·.level)

end Conclusion

end SliceSelection.CommandLine
