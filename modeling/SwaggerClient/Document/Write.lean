import SwaggerClient.Document.Basic
import SwaggerClient.Schema.Write

namespace SwaggerClient

def Parameter.toJson (p : Parameter) : Json :=
  .object <|
    Json.entry? "$ref" (p.reference.map .string) ++
    Json.entry? "name" (p.name.map .string) ++
    Json.entry? "in" (p.location.map fun location => .string location.name) ++
    [("required", .bool p.required)] ++
    Json.entry? "description" (p.description.map .string) ++
    Json.entry? "schema" (p.schema.map Schema.toJson) ++
    p.beside.toEntries

def Response.toJson (r : Response) : Json :=
  .object <|
    Json.entry? "$ref" (r.reference.map .string) ++
    Json.entry? "description" (r.description.map .string) ++
    Json.entry? "schema" (r.schema.map Schema.toJson)

/-- A security requirement: an object of lists of scopes. -/
def SecurityRequirement.toJson (requirement : SecurityRequirement) : Json :=
  .object (requirement.map fun (scheme, scopes) => (scheme, Json.ofTexts scopes))

def SecurityRequirement.listToJson (requirements : List SecurityRequirement) : Json :=
  .array (requirements.map SecurityRequirement.toJson)

end SwaggerClient
