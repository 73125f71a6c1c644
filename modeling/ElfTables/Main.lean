import ElfTables.Command.Program

namespace ElfTables.Program

def reasonText (error : IO.Error) : String :=
  match error with
  | .noFileOrDirectory _ code text | .inappropriateType _ code text
  | .permissionDenied _ code text | .invalidArgument _ code text
  | .resourceExhausted _ code text => s!"{text} (os error {code.toNat})"
  | .hardwareFault code text | .otherError code text => s!"{text} (os error {code.toNat})"
  | other => other.toString

partial def readAll (file : IO.FS.Handle) (content : Array UInt8) : IO (Array UInt8) := do
  let piece ← file.read 65536
  if piece.isEmpty then
    return content
  readAll file (content ++ piece.data)

def lookUp (path : String) : IO Opened := do
  match ← (IO.FS.Handle.mk path .read).toBaseIO with
  | .error error => return .failed (reasonText error)
  | .ok file =>
    match ← (readAll file #[]).toBaseIO with
    | .ok content => return .ready { content }
    | .error error =>
      return .ready { content := #[], readFault := some ⟨0, reasonText error⟩ }

/-- Whether to colour: a variable that forces colours, one that forbids them, then the terminal. -/
def wantsColours : IO Bool := do
  if ((← IO.getEnv "CLICOLOR_FORCE").getD "0") != "0" then
    return true
  if (← IO.getEnv "NO_COLOR").isSome then
    return false
  if (← IO.getEnv "CLICOLOR") == some "0" then
    return false
  (← IO.getStdout).isTty

end ElfTables.Program

open ElfTables in
def main (arguments : List String) : IO UInt32 := do
  let opened ← match Arguments.parse arguments with
    | .ok (.inspect invocation) => Program.lookUp invocation.path
    | _ => pure (.failed "")
  let outcome := Program.run arguments (fun _ => opened) (← Program.wantsColours)
  (← IO.getStdout).putStr outcome.stdout
  (← IO.getStderr).putStr outcome.stderr
  return outcome.exitCode.toUInt32
