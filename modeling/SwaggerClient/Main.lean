import SwaggerClient.CommandLine.Run

namespace SwaggerClient

def FileError.ofSystem : IO.Error → FileError
  | .noFileOrDirectory _ _ _ => .noSuchFile
  | .alreadyExists _ _ _ => .exists
  | .inappropriateType _ 20 _ => .notDirectory
  | .inappropriateType _ 21 _ => .isDirectory
  | e => .other (toString e)

def FileAccess.attempt {α : Type} (action : IO α) : ExceptT FileError IO α :=
  ExceptT.mk do
    try return .ok (← action)
    catch e => return .error (FileError.ofSystem e)

instance : FileAccess IO where
  read path := FileAccess.attempt (IO.FS.readFile path)
  isDirectory path := do
    try (← IO.FS.realPath path).isDir
    catch _ => return false
  makeDirectory path := FileAccess.attempt (IO.FS.createDir path)
  write path text := FileAccess.attempt (IO.FS.writeFile path text)

end SwaggerClient

open SwaggerClient

/-- How a process ends that is aborted. -/
def abortCode : Nat := 134

def main (words : List String) : IO UInt32 := do
  match Arguments.parse words with
  | .error usage =>
    IO.println usage.message
    return usage.exitCode.toUInt32
  | .ok a =>
    let outcome ← (a.run : ExceptT RunError IO Outcome).run
    match outcome with
    | .ok (.written _) => pure ()
    | .ok (.invalid report) => IO.eprintln report
    | .error e => IO.eprintln e.message
    return ((Outcome.exitCode outcome).getD abortCode).toUInt32
