import SwaggerClient.Document.Read
import SwaggerClient.Error
import SwaggerClient.Json.Pointer

namespace SwaggerClient.Document

def pointerOf (reference : String) : Except SynthesisError String :=
  if (Text.after? "#/" reference).isSome then .ok (String.ofList (reference.toList.drop 1))
  else .error (.unsupportedReference reference)

/-- Reads what stands in the document where a reference leads. -/
def lookup {α : Type} (d : Document) (kind : TargetKind) (read : Reader α) (reference : String) :
    Except SynthesisError α := do
  let pointer ← pointerOf reference
  match d.raw.pointer? pointer with
  | none => throw (.danglingReference reference)
  | some j =>
    match read j with
    | .ok target => return target
    | .error cause => throw (.invalidTarget reference kind cause)

/-- The name of a definition, when a pointer leads to one and its name holds no slash. -/
def definitionName? (pointer : String) : Option String :=
  (Text.after? "/definitions/" pointer).filter fun name => !name.toList.contains '/'

/-- The schema that a reference leads to: the definition of that name if there is one, else what stands
at the pointer. -/
def lookupSchema (d : Document) (reference : String) : Except SynthesisError Schema := do
  let pointer ← pointerOf reference
  match (definitionName? pointer).bind fun name => Entries.get? name d.contents.definitions with
  | some schema => return schema
  | none => d.lookup .schema Schema.read reference

/-- An upper bound for the number of different references in a document. -/
def referenceBound (d : Document) : Nat :=
  d.raw.stringCount

/-- The error for a chain of references that comes back to `reference`: the part of the chain from its
first occurrence on, closed. -/
def cycleError (chain : List String) (reference : String) : SynthesisError :=
  .cycle (chain.dropWhile (fun r => r != reference) ++ [reference])

end SwaggerClient.Document
