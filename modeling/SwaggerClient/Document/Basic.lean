import SwaggerClient.Schema.Basic

namespace SwaggerClient

/-- The methods that a path may declare. -/
inductive HttpMethod where
  | get
  | put
  | post
  | delete
  | options
  | head
  | patch
  | trace
deriving DecidableEq, Repr

namespace HttpMethod

def all : List HttpMethod :=
  [.get, .put, .post, .delete, .options, .head, .patch, .trace]

def name : HttpMethod → String
  | .get => "get"
  | .put => "put"
  | .post => "post"
  | .delete => "delete"
  | .options => "options"
  | .head => "head"
  | .patch => "patch"
  | .trace => "trace"

def upperName : HttpMethod → String
  | .get => "GET"
  | .put => "PUT"
  | .post => "POST"
  | .delete => "DELETE"
  | .options => "OPTIONS"
  | .head => "HEAD"
  | .patch => "PATCH"
  | .trace => "TRACE"

end HttpMethod

/-- Where a parameter travels. -/
inductive Location where
  | path
  | query
  | header
  | body
  | formData
deriving DecidableEq, Repr

namespace Location

def all : List Location :=
  [.path, .query, .header, .body, .formData]

def name : Location → String
  | .path => "path"
  | .query => "query"
  | .header => "header"
  | .body => "body"
  | .formData => "formData"

/-- The tag that client templates use; form data travels as parts of the body. -/
def tag : Location → String
  | .path => "Path"
  | .query => "Query"
  | .header => "Header"
  | .body => "Body"
  | .formData => "Part"

end Location

/-- A parameter. A body parameter holds its type under `schema`; for the others the parts of a schema
stand beside the parameter's own fields. -/
structure Parameter where
  reference : Option String := none
  name : Option String := none
  location : Option Location := none
  required : Bool := false
  description : Option String := none
  schema : Option Schema := none
  beside : Schema := {}
deriving Repr, Inhabited

/-- The schema of a parameter: the one given, else the parts beside its fields with the parameter's own
description. -/
def Parameter.effectiveSchema (p : Parameter) : Schema :=
  match p.schema with
  | some schema => schema
  | none => { p.beside with description := p.description }

/-- A response. -/
structure Response where
  reference : Option String := none
  description : Option String := none
  schema : Option Schema := none
deriving Repr, Inhabited

/-- The schema of a response; without one the body is empty. -/
def Response.effectiveSchema (r : Response) : Schema :=
  match r.schema with
  | some schema => schema
  | none => { description := r.description }

/-- For each security scheme that has to be satisfied, the scopes that are needed. -/
abbrev SecurityRequirement := List (String × List String)

/-- An operation. -/
structure Operation where
  operationId : Option String := none
  summary : Option String := none
  description : Option String := none
  parameters : Option (List Parameter) := none
  responses : List (String × Response) := []
  produces : Option (List String) := none
  security : Option (List SecurityRequirement) := none
deriving Repr, Inhabited

/-- A path: the parameters that all its operations share, and its operations. -/
structure PathItem where
  parameters : Option (List Parameter) := none
  operation? : HttpMethod → Option Operation := fun _ => none

def PathItem.operations (item : PathItem) : List (HttpMethod × Operation) :=
  HttpMethod.all.filterMap fun method => (item.operation? method).map fun op => (method, op)

/-- What a document says about itself. -/
structure Info where
  title : Option String := none
  version : Option String := none
deriving Repr

/-- What a document holds. -/
structure Contents where
  paths : List (String × PathItem) := []
  definitions : List (String × Schema) := []
  basePath : Option String := none
  info : Option Info := none

end SwaggerClient
