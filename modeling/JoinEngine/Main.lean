import JoinEngine.Command.Outcome
import JoinEngine.Key.Fnv

/-!
The program: reads the job file and prints what the command makes of it.
-/

open JoinEngine

def readFailure (e : IO.Error) : String :=
  match e with
  | .noFileOrDirectory _ code details | .inappropriateType _ code details
  | .permissionDenied _ code details | .invalidArgument _ code details
  | .resourceExhausted _ code details | .noSuchThing _ code details
  | .alreadyExists _ code details | .interrupted _ code details
  | .hardwareFault code details | .resourceBusy code details
  | .resourceVanished code details | .unsupportedOperation code details
  | .unsatisfiedConstraints code details | .illegalOperation code details
  | .protocolError code details | .timeExpired code details
  | .otherError code details => s!"{details} (os error {code})"
  | other => toString other

def readJobFile (path : String) : IO (Except String ByteArray) := do
  try
    let handle ← IO.FS.Handle.mk path .read
    return .ok (← handle.readBinToEnd)
  catch e => return .error (readFailure e)

def main (args : List String) : IO UInt32 := do
  let command := Command.parse args
  let file ← match command.path? with
    | some path => readJobFile path
    | none => pure (.ok ByteArray.empty)
  let outcome := command.outcome file
  IO.print outcome.stdout
  IO.eprint outcome.stderr
  return UInt32.ofNat outcome.code
