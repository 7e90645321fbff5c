import SliceSelection.CommandLine.Conclusion

/-!
# The program

Reads what is around it, concludes, and writes. It has no transport of its own: a request that
passes the checks meets a peer that breaks the connection, and a run ends as soon as it is ready.
-/

namespace SliceSelection

/-- Why a file can not be read. -/
def readingFault : IO.Error → String
  | .noFileOrDirectory _ _ _ => "No such file or directory (os error 2)"
  | .permissionDenied _ _ _ => "Permission denied (os error 13)"
  | .inappropriateType _ 21 _ => "Is a directory (os error 21)"
  | .inappropriateType _ _ _ => "Not a directory (os error 20)"
  | .invalidArgument _ _ _ => "File name too long (os error 36)"
  | e => toString e

/-- Read a file, or say why it can not be read. -/
def readText (path : String) : IO (Except String String) := do
  try
    return .ok (← IO.FS.readFile path)
  catch e =>
    return .error (readingFault e)

/-- A random identifier: groups of digits, of which two tell how it was made. -/
def randomInstanceId : IO String := do
  let mut digits : List Char := []
  for place in List.range 36 do
    let digit ← IO.rand 0 15
    let digit := if place = 14 then 4 else if place = 19 then 8 + digit % 4 else digit
    digits := digits ++
      [if [8, 13, 18, 23].contains place then '-' else Nat.digitChar digit]
  return String.ofList digits

end SliceSelection

open SliceSelection in
/-- The program. -/
def main (args : List String) : IO UInt32 := do
  let config ← match CommandLine.Request.ofArguments args with
    | .ok (.run o) => readText o.config
    | _ => pure (.error "not asked for")
  let conclusion := CommandLine.conclude {
    file := fun _ => config
    hostname := ← IO.getEnv "HOSTNAME"
    instanceId := ← randomInstanceId
    restartCounter := .ofNat (← IO.rand 0 4294967295)
    peer := fun _ => .broken "client error (Connect)" } args
  IO.print conclusion.stdout
  IO.eprint conclusion.stderr
  return conclusion.status
