import SwaggerClient.Api.Methods
import SwaggerClient.Model.Selection

namespace SwaggerClient

/-- An API to make a client for. -/
structure ApiSource where
  document : Document
  /-- Stands before the document's own base path. -/
  basePath : Option String := none
  className : Option String := none

namespace Api

/-- The client of an API. -/
def synthesize (name : String) (source : ApiSource) (target : Target) (options : Options) :
    Except SynthesisError Api := do
  let raw ← MethodSynthesis.synthesize ⟨source.document, target, options, source.basePath⟩
  let models := Model.dedupe raw.models
  return {
    name
    className := source.className.getD name
    version := options.version <|> source.document.version?
    methods := raw.methods
    objectModels := ObjectModel.linkSubclasses (Model.objects models)
    enumModels := Model.enumerations models }

def synthesizeAll (target : Target) (options : Options) :
    List (String × ApiSource) → Except SynthesisError (List Api)
  | [] => .ok []
  | (name, source) :: rest => do
    let first ← synthesize name source target options
    let more ← synthesizeAll target options rest
    return first :: more

end Api

end SwaggerClient
