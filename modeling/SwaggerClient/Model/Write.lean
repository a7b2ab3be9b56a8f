import SwaggerClient.Json.Basic
import SwaggerClient.Model.Basic

namespace SwaggerClient

def TypeUse.toJson (t : TypeUse) : Json :=
  .object <| [("name", .string t.name)] ++ Json.entry? "format" (t.format.map .string)

def Property.toJson (p : Property) : Json :=
  .object <|
    [("name", .string p.name), ("specName", .string p.specName), ("type", .string p.type)] ++
    Json.entry? "format" (p.format.map .string) ++
    [("isRequired", .bool p.isRequired)] ++
    Json.entry? "description" (p.description.map .string)

def SubclassName.toJson (s : SubclassName) : Json :=
  .object [("name", .string s.name), ("specName", .string s.specName)]

namespace ObjectModel

mutual

def toEntries : ObjectModel → List (String × Json)
  | ⟨name, specName, superclassName, properties, inherited, initializer, nested, subclasses,
      discriminator, description⟩ =>
    [("name", .string name), ("specName", .string specName)] ++
    Json.entry? "superclassName" (superclassName.map .string) ++
    [("properties", .array (properties.map Property.toJson)),
      ("inheritedProperties", .array (inherited.map Property.toJson)),
      ("initializerProperties", .array (initializer.map Property.toJson)),
      ("nestedModels", .array (listToJson nested)),
      ("subclasses", .array (subclasses.map SubclassName.toJson))] ++
    Json.entry? "discriminator" (discriminator.map .string) ++
    Json.entry? "description" (description.map .string)
termination_by structural m => m

def listToJson : List ObjectModel → List Json
  | [] => []
  | m :: rest => .object (toEntries m) :: listToJson rest
termination_by structural models => models

end

def toJson (m : ObjectModel) : Json :=
  .object m.toEntries

end ObjectModel

def EnumCase.toJson (c : EnumCase) : Json :=
  .object [("name", .string c.name), ("uName", .string c.capitals), ("literal", .string c.literal)]

namespace EnumModel

def toEntries (m : EnumModel) : List (String × Json) :=
  [("name", .string m.name), ("enumType", .string m.type),
    ("values", .array (m.cases.map EnumCase.toJson))]

def toJson (m : EnumModel) : Json :=
  .object m.toEntries

end EnumModel

def Model.toJson : Model → Json
  | .object m => .object (("type", .string "object") :: m.toEntries)
  | .enumeration m => .object (("type", .string "enum") :: m.toEntries)

end SwaggerClient
