import SwaggerClient.Api.Report
import SwaggerClient.Api.Synthesis
import SwaggerClient.CommandLine.Configuration
import SwaggerClient.Files.Directory

namespace SwaggerClient

/-- How a run ends. -/
inductive Outcome where
  /-- The paths of the written files, one for each API. -/
  | written (paths : List String)
  /-- Problems were found, and nothing was written. -/
  | invalid (report : String)
deriving DecidableEq, Repr

/-- The exit code of a run. Where schemas contain each other too deeply, the run is broken off and comes to no
exit code of its own. -/
def Outcome.exitCode : Except RunError Outcome → Option Nat
  | .ok (.written _) => some 0
  | .ok (.invalid _) => some 1
  | .error (.synthesis .endless) => none
  | .error _ => some 1

namespace Configuration

variable {m : Type → Type} [Monad m] [FileAccess m]

def readFile (path : String) : ExceptT RunError m String :=
  ExceptT.adapt (RunError.unreadable path) (FileAccess.read path)

def ofArguments (a : Arguments) : ExceptT RunError m Configuration := do
  match a.value? .config with
  | some path =>
    let text ← readFile path
    let c ← ofConfigText path text
    return c.adjust a
  | none =>
    let c ← ofFlags a
    return c.adjust a

def load : List (String × ConfiguredApi) → ExceptT RunError m (List (String × ApiSource))
  | [] => pure []
  | (name, api) :: rest => do
    let text ← readFile api.spec
    let document ← (Document.ofFileText api.spec text).mapError (RunError.badDocument api.spec)
    let more ← load rest
    return (name, ⟨document, api.basePath, api.className⟩) :: more

/-- The clients of all APIs of a run. -/
def synthesize (c : Configuration) : ExceptT RunError m (List Api) := do
  let sources ← load c.apis
  (Api.synthesizeAll c.target c.options sources).mapError RunError.synthesis

def filePath (output : String) (api : Api) : String :=
  Path.join output (api.name ++ ".json")

def writeFiles (output : String) : List Api → ExceptT RunError m (List String)
  | [] => pure []
  | api :: rest => do
    let path := filePath output api
    ExceptT.adapt (RunError.unwritable path) (FileAccess.write path api.toJson.pretty)
    let more ← writeFiles output rest
    return path :: more

def write (output : String) (apis : List Api) : ExceptT RunError m (List String) := do
  ExceptT.adapt (RunError.unwritable output) (FileAccess.makeDirectories output)
  writeFiles output apis

def generate (c : Configuration) : ExceptT RunError m Outcome := do
  let apis ← synthesize c
  let report := Api.verifyAll apis
  if report.isEmpty then
    let paths ← write c.output apis
    return .written paths
  else return .invalid report

end Configuration

namespace Arguments

variable {m : Type → Type} [Monad m] [FileAccess m]

def run (a : Arguments) : ExceptT RunError m Outcome := do
  let c ← Configuration.ofArguments a
  c.generate

end Arguments

end SwaggerClient
