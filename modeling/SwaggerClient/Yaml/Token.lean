import SwaggerClient.Yaml.Tag

namespace SwaggerClient.Yaml

/-- A token. Indentation shows as the starts and ends of block collections. -/
inductive Token where
  | versionDirective (major minor : Nat)
  | tagDirective (handle : String) (start : List UInt8)
  | documentStart
  | documentEnd
  | streamEnd
  | blockSequenceStart
  | blockMappingStart
  | blockEnd
  | flowSequenceStart
  | flowSequenceEnd
  | flowMappingStart
  | flowMappingEnd
  | blockEntry
  | flowEntry
  | key
  | value
  | alias (name : String)
  | anchor (name : String)
  | tag (handle : String) (suffix : List UInt8)
  /-- A text; `plain` holds when it stands without quotes and marks. -/
  | scalar (text : String) (plain : Bool)
deriving DecidableEq, Repr

end SwaggerClient.Yaml
