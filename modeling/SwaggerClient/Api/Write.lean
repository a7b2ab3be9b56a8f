import SwaggerClient.Api.Basic
import SwaggerClient.Document.Write
import SwaggerClient.Model.Write

namespace SwaggerClient

def Param.toJson (p : Param) : Json :=
  .object <|
    [("name", .string p.name)] ++
    Json.entry? "serverName" (p.serverName.map .string) ++
    Json.entry? "location" (p.location.map fun location => .string location.name) ++
    Json.entry? "locationTag" (p.location.map fun location => .string location.tag) ++
    [("type", .string p.type)] ++
    Json.entry? "format" (p.format.map .string) ++
    [("isRequired", .bool p.isRequired)] ++
    Json.entry? "description" (p.description.map .string) ++
    Json.entry? "schemaType" (p.schemaType.map .string)

def Method.toJson (m : Method) : Json :=
  .object <|
    [("path", .string m.path), ("httpMethod", .string m.httpMethod.name), ("name", .string m.name)] ++
    Json.entry? "description" (m.description.map .string) ++
    [("params", .array (m.params.map Param.toJson)), ("response", m.response.toJson),
      ("streaming", .bool m.streaming)] ++
    Json.entry? "security" (m.security.map SecurityRequirement.listToJson)

def Api.toJson (a : Api) : Json :=
  .object <|
    [("apiName", .string a.name), ("apiClassName", .string a.className)] ++
    Json.entry? "apiVersion" (a.version.map .string) ++
    [("methods", .array (a.methods.map Method.toJson)),
      ("objectModels", .array (a.objectModels.map ObjectModel.toJson)),
      ("enumModels", .array (a.enumModels.map EnumModel.toJson))]

end SwaggerClient
