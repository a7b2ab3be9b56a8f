import SwaggerClient.Structure.Reader

namespace SwaggerClient

/-- How names and versions are made. -/
structure Options where
  /-- Identifiers in snake case. -/
  snake : Bool := false
  /-- Methods are named after their paths even if they have a name of their own. -/
  noOperationIds : Bool := false
  /-- Takes the place of the document's version. -/
  version : Option String := none
deriving DecidableEq, Repr

namespace Options

def record : Record Options where
  name := "GeneratorOptions"
  fields := [⟨"snake", true⟩, ⟨"noOperationIds", true⟩, ⟨"version", true⟩]
  empty := {}
  set := fun key value options =>
    match key with
    | "snake" => do
      let field ← Reader.bool value
      return { options with snake := field }
    | "noOperationIds" => do
      let field ← Reader.bool value
      return { options with noOperationIds := field }
    | "version" => do
      let field ← Reader.optional Reader.string value
      return { options with version := field }
    | _ => .ok options

def read : Reader Options :=
  record.read

end Options

end SwaggerClient
