import SwaggerClient.Json.Print
import SwaggerClient.Schema.Basic

namespace SwaggerClient

def EnumValue.toJson : EnumValue → Json
  | .string s => .string s
  | .integer n => .number (.integer n)
  | .real x => .number (.real x)
  | .bool b => .bool b
  | .null => .null

namespace Schema

mutual

/-- The entries of a schema. -/
def toEntries : Schema → List (String × Json)
  | ⟨reference, type, format, description, properties, required, items, additional, values, allOf,
      discriminator⟩ =>
    Json.entry? "$ref" (reference.map .string) ++
    Json.entry? "type" (type.map .string) ++
    Json.entry? "format" (format.map .string) ++
    Json.entry? "description" (description.map .string) ++
    Json.entry? "properties" (propertiesToJson properties) ++
    Json.entry? "required" (required.map Json.ofTexts) ++
    Json.entry? "items" (itemsToJson items) ++
    Json.entry? "additionalProperties" (additionalToJson additional) ++
    Json.entry? "enum" (values.map fun vs => .array (vs.map EnumValue.toJson)) ++
    Json.entry? "allOf" (allOfToJson allOf) ++
    Json.entry? "discriminator" (discriminator.map .string)
termination_by structural s => s

def propertiesToJson : Option (List (String × Schema)) → Option Json
  | none => none
  | some properties => some (.object (entriesToJson properties))
termination_by structural properties => properties

def entriesToJson : List (String × Schema) → List (String × Json)
  | [] => []
  | (key, s) :: rest => (key, .object (toEntries s)) :: entriesToJson rest
termination_by structural entries => entries

def itemsToJson : Option Schema → Option Json
  | none => none
  | some s => some (.object (toEntries s))
termination_by structural items => items

def additionalToJson : Option (Additional Schema) → Option Json
  | none => none
  | some (.allowed any) => some (.bool any)
  | some (.schema s) => some (.object (toEntries s))
termination_by structural additional => additional

def allOfToJson : Option (List Schema) → Option Json
  | none => none
  | some members => some (.array (membersToJson members))
termination_by structural allOf => allOf

def membersToJson : List Schema → List Json
  | [] => []
  | s :: rest => .object (toEntries s) :: membersToJson rest
termination_by structural members => members

end

def toJson (s : Schema) : Json :=
  .object s.toEntries

def dump (s : Schema) : String :=
  s.toJson.pretty

end Schema

end SwaggerClient
