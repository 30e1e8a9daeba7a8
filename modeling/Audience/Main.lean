import Audience.CommandLine.Commands

namespace Audience

/-! The program on a real machine. -/

/-- What stands under a path.  What is there and cannot be read counts as a directory. -/
def diskAt (path : String) : IO Disk := do
  try
    return .file (← IO.FS.readBinFile path)
  catch
    | .noFileOrDirectory .. => return .missing
    | _ => return .directory

partial def readAll (stream : IO.FS.Stream) (before : ByteArray) : IO ByteArray := do
  let chunk ← stream.read 65536
  if chunk.isEmpty then return before else readAll stream (before ++ chunk)

def Script.perform {α : Type} : Script α → IO α
  | .finished result => return result
  | .looking path resume => do (resume (← diskAt path)).perform
  | .reading resume => do (resume (← readAll (← IO.getStdin) .empty)).perform

/-- The environment that the program was started in. -/
def currentEnvironment : IO Environment := do
  match ← diskAt "/proc/self/environ" with
  | .file bytes => return .ofEntries (bytes.toList.splitOn 0)
  | _ => return .empty

end Audience

open Audience

def main (arguments : List String) : IO UInt32 := do
  let outcome ← (CommandLine.run "native" (← currentEnvironment) arguments).perform
  (← IO.getStdout).putStr outcome.output
  return UInt32.ofNat outcome.code
