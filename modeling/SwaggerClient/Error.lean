import SwaggerClient.Document.Basic
import SwaggerClient.Schema.Write
import SwaggerClient.Structure.Error

namespace SwaggerClient

/-- What a reference is expected to lead to. -/
inductive TargetKind where
  | schema
  | parameter
  | response
deriving DecidableEq, Repr

def TargetKind.name : TargetKind → String
  | .schema => "schema"
  | .parameter => "parameter"
  | .response => "response"

/-- A fault of a document or of a type table that ends the work on an API. -/
inductive SynthesisError where
  /-- The reference leads out of the document. -/
  | unsupportedReference (reference : String)
  /-- Nothing stands where the reference leads. -/
  | danglingReference (reference : String)
  /-- What stands where the reference leads has the wrong structure. -/
  | invalidTarget (reference : String) (expected : TargetKind) (cause : StructureError)
  /-- References, or the models under construction, come back to one of them. -/
  | cycle (chain : List String)
  /-- The type table has no name for the type of a schema. -/
  | unknownShape (type : Option String) (schema : Schema)
  /-- An array does not say what it holds. -/
  | arrayWithoutItems (schema : Schema)
  /-- The values of a map are objects declared in place. -/
  | unsupportedMapValue (schema : Schema)
  /-- No response of an operation tells what a successful call returns. -/
  | missingResponse (method : HttpMethod) (path : String)
  /-- The type table lacks an entry. -/
  | missingTypeEntry (key : String)
  /-- Schemas contain each other, or references lead to each other, further down than they are followed. This
  is no fault that is told: the run is broken off. -/
  | endless

/-- The key of a type table for schemas that declare no type. -/
def untypedKey : String := "undefined"

def SynthesisError.message : SynthesisError → String
  | .unsupportedReference reference =>
    "No support for refs that don't start with '#/': " ++ reference
  | .danglingReference reference =>
    "Reference '" ++ reference ++ "' does not resolve to anything in the document"
  | .invalidTarget reference expected cause =>
    "Reference '" ++ reference ++ "' points at something that is not a valid " ++ expected.name ++
      ": " ++ cause.message
  | .cycle chain => "Cyclic reference detected: " ++ Text.join " -> " chain
  | .unknownShape type schema =>
    "I don't know how to process a schema of type " ++ type.getD untypedKey ++ " 🤔\n  " ++ schema.dump
  | .arrayWithoutItems schema => "Found an array schema with no items: " ++ schema.dump
  | .unsupportedMapValue schema =>
    "Schemas with additionalProperties of type object that don't use $ref are not supported.\n  " ++
      schema.dump
  | .missingResponse method path =>
    "Found an operation with no usable response: " ++ method.upperName ++ " " ++ path
  | .missingTypeEntry key => "The type map has no entry for '" ++ key ++ "'"
  | .endless => "The schemas of the document contain each other without end"

end SwaggerClient
