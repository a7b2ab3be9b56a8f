import SwaggerClient.Api.Basic
import SwaggerClient.Api.Options
import SwaggerClient.Api.Response
import SwaggerClient.Entries
import SwaggerClient.Model.Synthesis
import SwaggerClient.Naming.Url
import SwaggerClient.Reference.Follow

namespace SwaggerClient

/-- What methods are made for. -/
structure MethodSynthesis where
  document : Document
  target : Target
  options : Options
  /-- Stands before the document's own base path. -/
  basePath : Option String

/-- Methods sorted by path, and every model made along the way: those of the methods in the document's
order, then those of the definitions. -/
structure RawApi where
  methods : List Method
  models : List Model
deriving DecidableEq

namespace MethodSynthesis

def models (x : MethodSynthesis) : ModelSynthesis :=
  ⟨x.document, x.target, x.options.snake⟩

def fullBasePath (x : MethodSynthesis) : String :=
  Url.join [x.basePath.getD "", x.document.contents.basePath.getD ""]

/-- The path of a method: base paths and path, with a slash in front. -/
def methodPath (x : MethodSynthesis) (path : String) : String :=
  Url.join ["/", x.fullBasePath, path]

def cased (x : MethodSynthesis) (name : String) : String :=
  if x.options.snake then Naming.snakeCase name else Naming.camelCase name

/-- The name of a method: that of its operation, else one made of method and path. An operation's own
name stays as it is in snake case. -/
def methodName (x : MethodSynthesis) (path : String) (method : HttpMethod) (op : Operation) : String :=
  match if x.options.noOperationIds then none else op.operationId with
  | some id => if x.options.snake then id else Naming.camelCase id
  | none => x.cased (Url.join [method.name, path])

/-- A type name, or the declared type in place of an empty one. -/
def typeOrDeclared (name : String) (schema : Schema) : String :=
  if name.isEmpty then schema.type.getD "Void" else name

def responseName : String := "response"

def param (x : MethodSynthesis) (methodName : String) (p : Parameter) :
    Except SynthesisError (Param × List Model) := do
  let schema := p.effectiveSchema
  let defaultName := x.target.rules.className [methodName, p.name.getD responseName] 0
  let made ← x.models.fromSchema schema defaultName
  let param : Param :=
    { name := (p.name.map x.cased).getD ""
      serverName := p.name
      location := p.location
      type := typeOrDeclared made.type.name schema
      format := made.type.format
      isRequired := p.required
      description := p.description
      schemaType := schema.type }
  return (param, made.models)

def response (x : MethodSynthesis) (methodName : String) (r : Response) :
    Except SynthesisError (Param × List Model) := do
  let schema := r.effectiveSchema
  let defaultName := x.target.rules.className [methodName, responseName] 0
  let made ← x.models.fromSchema schema defaultName
  let param : Param :=
    { name := responseName
      serverName := none
      location := none
      type := typeOrDeclared made.type.name schema
      format := made.type.format
      isRequired := false
      description := r.description
      schemaType := schema.type }
  return (param, made.models)

/-- Parameters in order, with their models. -/
def params (x : MethodSynthesis) (methodName : String) :
    List Parameter → Except SynthesisError (List Param × List Model)
  | [] => .ok ([], [])
  | declared :: rest => do
    let p ← x.document.follow .parameter declared
    let (param, models) ← x.param methodName p
    let (params, more) ← x.params methodName rest
    return (param :: params, models ++ more)

/-- The responses of an operation with the one that describes a successful call. -/
def selectedResponse? (op : Operation) : Option Response :=
  (Response.select? (Entries.keys op.responses)).bind fun key => Entries.get? key op.responses

/-- The operation produces a stream of events in the first place. -/
def isStreaming (op : Operation) : Bool :=
  (op.produces.getD []).head? == some "text/event-stream"

/-- The method of an operation. The parameters of the path come before its own. -/
def method (x : MethodSynthesis) (path : String) (item : PathItem) (httpMethod : HttpMethod)
    (op : Operation) : Except SynthesisError (Method × List Model) := do
  let name := x.methodName path httpMethod op
  let (params, models) ← x.params name (item.parameters.getD [] ++ op.parameters.getD [])
  match selectedResponse? op with
  | none => throw (.missingResponse httpMethod path)
  | some declared =>
    let r ← x.document.follow .response declared
    let (response, more) ← x.response name r
    let method : Method :=
      { path := x.methodPath path
        httpMethod, name
        description := op.description <|> op.summary
        params, response
        streaming := isStreaming op
        security := op.security }
    return (method, models ++ more)

def operations (d : Document) : List (String × PathItem × HttpMethod × Operation) :=
  d.contents.paths.flatMap fun (path, item) =>
    item.operations.map fun (httpMethod, op) => (path, item, httpMethod, op)

def methods (x : MethodSynthesis) :
    List (String × PathItem × HttpMethod × Operation) →
      Except SynthesisError (List Method × List Model)
  | [] => .ok ([], [])
  | (path, item, httpMethod, op) :: rest => do
    let (method, models) ← x.method path item httpMethod op
    let (methods, more) ← x.methods rest
    return (method :: methods, models ++ more)

def definitionModels (x : MethodSynthesis) :
    List (String × Schema) → Except SynthesisError (List Model)
  | [] => .ok []
  | (name, schema) :: rest => do
    let made ← x.models.fromSchema schema name
    let more ← x.definitionModels rest
    return made.models ++ more

/-- The methods and models of the document. Methods with one path stay in the document's order. -/
def synthesize (x : MethodSynthesis) : Except SynthesisError RawApi := do
  let (methods, models) ← x.methods (operations x.document)
  let more ← x.definitionModels x.document.contents.definitions
  return ⟨methods.mergeSort (fun a b => a.path ≤ b.path), models ++ more⟩

end MethodSynthesis

end SwaggerClient
