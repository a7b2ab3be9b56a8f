import SwaggerClient.Document.Read
import SwaggerClient.Files.Path
import SwaggerClient.Json.Parse
import SwaggerClient.Yaml.Tree

namespace SwaggerClient

/-- Why a text holds no document. -/
inductive DocumentError where
  | notJson
  | notYaml
  | structure (cause : StructureError)
deriving DecidableEq, Repr

def DocumentError.message : DocumentError → String
  | .notJson => "Failed to parse spec document: the text is not JSON"
  | .notYaml => "Failed to parse spec document: the text is not YAML"
  | .structure cause => "Failed to parse spec document: " ++ cause.message

namespace Document

def ofValue? (missing : DocumentError) : Option Json → Except DocumentError Document
  | none => .error missing
  | some raw => (ofJson raw).mapError .structure

def ofJsonText (text : String) : Except DocumentError Document :=
  ofValue? .notJson (Json.ofText? text)

def ofYamlText (text : String) : Except DocumentError Document :=
  ofValue? .notYaml (Yaml.value? text)

def isYamlPath (path : String) : Bool :=
  match Path.extension? path with
  | some extension => extension.toLower == "yaml" || extension.toLower == "yml"
  | none => false

/-- The document in the text of a file: JSON, unless the extension tells that it is YAML. -/
def ofFileText (path text : String) : Except DocumentError Document :=
  if isYamlPath path then ofYamlText text else ofJsonText text

end Document

end SwaggerClient
