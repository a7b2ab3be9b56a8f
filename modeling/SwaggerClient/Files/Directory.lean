import SwaggerClient.Files.Access
import SwaggerClient.Files.Path

namespace SwaggerClient.FileAccess

variable {m : Type → Type} [Monad m] [FileAccess m]

/-- Excuses a failure where the directory is there. -/
def unlessDirectory (path : String) (e : FileError) : ExceptT FileError m Unit := do
  if ← (isDirectory path : m Bool) then return ()
  else throw e

/-- Makes the first of some directories, each of which lies in the next one. -/
def makeInside : List String → ExceptT FileError m Unit
  | [] => pure ()
  | path :: outer =>
    tryCatch (makeDirectory path) fun e => do
      if e = .noSuchFile then
        makeInside outer
        tryCatch (makeDirectory path) (unlessDirectory path)
      else unlessDirectory path e

def makeDirectories (path : String) : ExceptT FileError m Unit :=
  makeInside (Path.ancestors path)

end SwaggerClient.FileAccess
