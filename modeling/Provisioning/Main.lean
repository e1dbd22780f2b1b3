import Provisioning.CommandLine.Run

/-!
# The command

The outer layer of the command: it gathers the environment, reads the file that the arguments name,
and prints the outcome. It has no network at its disposal, so every server is out of its reach.
-/

open Provisioning

/-- The fault of the system that is closest to what went wrong with a file. -/
def faultOfFile : IO.Error → TransportFault
  | .noFileOrDirectory .. => .noSuchFile
  | .permissionDenied .. => .system 13 "PermissionDenied" "Permission denied"
  | .inappropriateType .. => .system 21 "IsADirectory" "Is a directory"
  | e => .other (toString e)

/-- The text of a file. -/
def textOfFile (path : String) : IO (Except TransportFault String) := do
  try
    let bytes ← IO.FS.readBinFile path
    match Text.Utf8.decode bytes.toList with
    | .ok s => return .ok s
    | .error _ => return .error (.other "stream did not contain valid UTF-8")
  catch e => return .error (faultOfFile e)

/-- Eight hexadecimal digits at random. -/
def randomStem : IO String := do
  let n ← IO.rand 0 4294967295
  let digits := (Nat.toDigits 16 n).map Char.toUpper
  return String.ofList (List.replicate (8 - digits.length) '0' ++ digits)

def main (words : List String) : IO UInt32 := do
  let keys := ["EPP_SERVER", "EPP_LOGIN", "EPP_PASSWORD"]
  let env ← keys.filterMapM fun key => do return (← IO.getEnv key).map fun value => (key, value)
  let lookup (key : String) : Option String := env.lookup key
  let file ← match (CommandLine.Arguments.read lookup words).toOption.bind (·.file?) with
    | some path => textOfFile path
    | none => pure (.error .noSuchFile)
  let outcome := CommandLine.run {
    lookup
    fileText := fun _ => file
    peer := .recorded
    dial := fun e => .error e.outOfReach
    ids := { stem := ← randomStem } } words
  IO.print outcome.output
  IO.eprint outcome.complaint
  return outcome.status.toUInt32
