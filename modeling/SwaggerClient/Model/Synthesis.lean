import SwaggerClient.Language.TypeName
import SwaggerClient.Model.Basic
import SwaggerClient.Reference.Resolve

namespace SwaggerClient

/-- A type with the models that it needs, outermost first. -/
structure Synthesized where
  type : TypeUse
  models : List Model
deriving DecidableEq

/-- What models are made for: a document, a target language, and a style of identifiers. -/
structure ModelSynthesis where
  document : Document
  target : Target
  snake : Bool

namespace ModelSynthesis

/-- Makes the type of a schema. The list holds the names of the object models under construction,
innermost first; the last argument names a model that no reference names. -/
abbrev Step := List String → Schema → String → Except SynthesisError Synthesized

def primitiveName (x : ModelSynthesis) (schema : Schema) (type format : Option String)
    (additional : Option (Additional Schema)) : Except SynthesisError String := do
  match ← x.target.typeName? type format additional with
  | some name => return name
  | none => throw (.unknownShape type schema)

def enumCase (x : ModelSynthesis) (quoted : Bool) (value : EnumValue) : EnumCase :=
  let text := value.text
  { name := x.target.rules.identifier [text] x.snake
    capitals := x.target.rules.caseName [text]
    literal := if quoted then "\"" ++ text ++ "\"" else text }

/-- The enumeration of some values; the literals of texts stand in quotes. -/
def enumModel (x : ModelSynthesis) (name : String) (schema : Schema) (baseType : Option String)
    (values : List EnumValue) : Except SynthesisError EnumModel := do
  let type ← x.primitiveName schema baseType schema.format none
  return ⟨name, type, values.map (x.enumCase (baseType == some "string"))⟩

/-- A property with the models that its type needs: one nested in the model of the property's owner, and
others beside it. -/
structure Member where
  property : Property
  nested : Option ObjectModel
  siblings : List Model

/-- The models of an object declared in place: the object itself, and all others. -/
def takeNested (models : List Model) : Option ObjectModel × List Model :=
  match models with
  | .object m :: rest => (some m, rest)
  | models => (none, models)

/-- The property `key` of the object model `owner`, which stands for the schema `full`. -/
def member (x : ModelSynthesis) (again : Step) (building : List String) (owner : String)
    (full : Schema) (key : String) (schema : Schema) : Except SynthesisError Member := do
  let inPlace := schema.isInlineObject
  let defaultName := x.target.rules.className [owner, key] (if inPlace then 1 else 0)
  let made ← again building schema defaultName
  let (nested, siblings) := if inPlace then takeNested made.models else (none, made.models)
  let type :=
    match nested with
    | some child => owner ++ "." ++ child.name
    | none => made.type.name
  let property : Property :=
    { name := x.target.rules.identifier [key] x.snake
      specName := key
      type
      format := made.type.format
      isRequired := full.isRequired key
      description := schema.description }
  return ⟨property, nested, siblings⟩

def members (x : ModelSynthesis) (again : Step) (building : List String) (owner : String)
    (full : Schema) : List (String × Schema) → Except SynthesisError (List Member)
  | [] => .ok []
  | (key, schema) :: rest => do
    let first ← x.member again building owner full key schema
    let more ← x.members again building owner full rest
    return first :: more

/-- A superclass: its name, the properties that it passes on, and the models that it needs. -/
structure Parent where
  name : Option String
  properties : List Property
  models : List Model

/-- The properties that the first of the superclass's models passes on. -/
def passedOn (models : List Model) : List Property :=
  match models with
  | .object m :: _ => m.properties ++ m.inheritedProperties
  | _ => []

/-- The superclass that a reference leads to. -/
def parent (again : Step) (building : List String) (reference : Option String) :
    Except SynthesisError Parent :=
  match reference with
  | none => .ok ⟨none, [], []⟩
  | some r => do
    let made ← again building { reference := some r } ""
    return ⟨some made.type.name, passedOn made.models, made.models⟩

/-- The declared properties that are not inherited with the same signature. -/
def ownProperties (declared inherited : List Property) : List Property :=
  declared.filter fun p => !inherited.any fun i => i.sameSignature p

/-- The own properties, and the inherited ones whose names they leave free. -/
def initializerProperties (own inherited : List Property) : List Property :=
  own ++ inherited.filter fun i => !own.any fun p => p.name == i.name

/-- The models of an object: its own, those of its properties and those of its superclass. -/
def objectModels (x : ModelSynthesis) (again : Step) (building : List String) (name specName : String)
    (full : Schema) (properties : List (String × Schema)) (superclass : Option String) :
    Except SynthesisError (List Model) := do
  let members ← x.members again building name full properties
  let parent ← parent again building superclass
  let own := ownProperties (members.map (·.property)) parent.properties
  let model : ObjectModel :=
    { name, specName
      superclassName := parent.name
      properties := own
      inheritedProperties := parent.properties
      initializerProperties := initializerProperties own parent.properties
      nestedModels := members.filterMap (·.nested)
      subclasses := []
      discriminator := full.discriminator
      description := full.description }
  return .object model :: members.flatMap (·.siblings) ++ parent.models

/-- The name of the model of a schema: that of its reference, else the default. -/
def modelName (x : ModelSynthesis) (schema : Schema) (defaultName : String) : String :=
  match schema.reference with
  | some r => x.target.rules.classNameOfReference r
  | none => x.target.rules.className [defaultName] 0

/-- The name that the document has for a schema. -/
def specName (schema : Schema) (defaultName : String) : String :=
  match schema.reference with
  | some r => NamingRules.lastSegment r
  | none => defaultName

/-- The first reference among the members of a composition. -/
def superclassReference (schema : Schema) : Option String :=
  (schema.allOf.getD []).findSome? (·.reference)

/-- The type of a schema from which references and compositions are gone. -/
def fromFull (x : ModelSynthesis) (again : Step) (building : List String) (name specName : String)
    (superclass : Option String) (full : Schema) : Except SynthesisError Synthesized :=
  match full.shape with
  | .enumeration baseType values => do
    let model ← x.enumModel name full baseType values
    return ⟨⟨name, none⟩, [.enumeration model]⟩
  | .array items =>
    match items with
    | none => .error (.arrayWithoutItems full)
    | some items => do
      let inner ← again building items name
      let arrayName ← x.target.arrayName inner.type.name
      return ⟨⟨arrayName, inner.type.format⟩, inner.models⟩
  | .object properties => do
    let models ← x.objectModels again (name :: building) name specName full properties superclass
    return ⟨⟨name, none⟩, models⟩
  | .primitive type format => do
    let models ←
      match full.additional with
      | some (.schema value) => (again building value "").map (·.models)
      | _ => .ok []
    let typeName ← x.primitiveName full type format full.additional
    return ⟨⟨typeName, if type == some "string" then format else none⟩, models⟩

/-- The type of a schema, by way of the types of the schemas in it. A reference to the model that is
being built is its name; one to a model further out is an error. -/
def step (x : ModelSynthesis) (again : Step) : Step := fun building schema defaultName =>
  let name := x.modelName schema defaultName
  if schema.reference.isSome && building.head? == some name then .ok ⟨⟨name, none⟩, []⟩
  else if schema.reference.isSome && building.contains name then
    .error (.cycle (building.reverse.dropWhile (fun n => n != name) ++ [name]))
  else do
    let base ← x.document.resolve .onlyReferences schema
    let superclass := superclassReference base
    let full ← x.document.resolve (.full superclass) base
    x.fromFull again building name (specName schema defaultName) superclass full

/-- The type of a schema, with at most `depth` schemas inside one another. -/
def within (x : ModelSynthesis) : (depth : Nat) → Step
  | 0, _, _, _ => .error .endless
  | depth + 1, building, schema, defaultName => x.step (x.within depth) building schema defaultName

/-- How many schemas may stand inside one another before the run is broken off. Runs that end can be deeper: where
definitions make up several rings, an object in place may go through all combinations of their members before one
comes again. -/
def depthBound (x : ModelSynthesis) (schema : Schema) : Nat :=
  let n := x.document.raw.size + schema.size + 2
  n * n * n

/-- The type of a schema and the models that it needs. -/
def fromSchema (x : ModelSynthesis) (schema : Schema) (defaultName : String) :
    Except SynthesisError Synthesized :=
  x.within (x.depthBound schema) [] schema defaultName

end ModelSynthesis

end SwaggerClient
