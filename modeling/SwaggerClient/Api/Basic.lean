import SwaggerClient.Document.Basic
import SwaggerClient.Model.Basic

namespace SwaggerClient

/-- A parameter of a method, or its response. -/
structure Param where
  name : String
  /-- The name on the wire; a response has none. -/
  serverName : Option String
  location : Option Location
  type : String
  format : Option String
  isRequired : Bool
  description : Option String
  /-- The type that the schema declares. -/
  schemaType : Option String
deriving DecidableEq, Repr

/-- A method of a client. -/
structure Method where
  path : String
  httpMethod : HttpMethod
  name : String
  description : Option String
  params : List Param
  response : Param
  /-- The response is a stream of events. -/
  streaming : Bool
  security : Option (List SecurityRequirement)
deriving DecidableEq, Repr

/-- The client of one API. -/
structure Api where
  name : String
  className : String
  version : Option String
  /-- Sorted by path. -/
  methods : List Method
  objectModels : List ObjectModel
  enumModels : List EnumModel
deriving DecidableEq, Repr

end SwaggerClient
