import SwaggerClient.Api.Options
import SwaggerClient.CommandLine.Arguments
import SwaggerClient.CommandLine.Error
import SwaggerClient.Files.Path
import SwaggerClient.Json.Excerpt

namespace SwaggerClient

/-- An API of a run. -/
structure ConfiguredApi where
  /-- The path of the document. -/
  spec : String
  className : Option String
  basePath : Option String
deriving DecidableEq, Repr

/-- The contents of a config file. -/
structure ConfigFile where
  language : String
  specs : List (String × ConfiguredApi)
  output : Option String
  options : Options
  types : TypeTable
deriving DecidableEq, Repr

/-- What a run works on. -/
structure Configuration where
  target : Target
  apis : List (String × ConfiguredApi)
  output : String
  options : Options
deriving DecidableEq, Repr

namespace ConfigFile

def keys : List String :=
  ["language", "specs", "output", "opts", "typeMap"]

def apiKeys : List String :=
  ["spec", "className", "basePath"]

def optionKeys : List String :=
  Options.record.fields.map Field.key

/-- The parts of a config file that are read. -/
def interest : Json.Interest :=
  .keys [("language", .whole), ("specs", .entries (.wholeKeys apiKeys)), ("output", .whole),
    ("opts", .wholeKeys optionKeys), ("typeMap", .whole)]

/-- The values of a record's fields, given as an object without a repeated field, or as a list of all
of them in order. Other keys of the object are left out. -/
def fields? (keys : List String) : Json → Option (List (String × Json))
  | .object entries =>
    let known := entries.filter fun entry => keys.contains entry.1
    if (Entries.keys known).Nodup then some known else none
  | .array items => if items.length = keys.length then some (keys.zip items) else none
  | _ => none

/-- The value of a field that has to be there. -/
def needed? {α : Type} (key : String) (read : Reader α) (fields : List (String × Json)) : Option α :=
  (Entries.get? key fields).bind fun j => (read j).toOption

def absentOr? {α : Type} (key : String) (default : α) (read : Reader α)
    (fields : List (String × Json)) : Option α :=
  match Entries.get? key fields with
  | none => some default
  | some j => (read j).toOption

def readApi? (j : Json) : Option ConfiguredApi := do
  let fields ← fields? apiKeys j
  let spec ← needed? "spec" Reader.string fields
  let className ← absentOr? "className" none (Reader.optional Reader.string) fields
  let basePath ← absentOr? "basePath" none (Reader.optional Reader.string) fields
  return ⟨spec, className, basePath⟩

def readApis? : List (String × Json) → Option (List (String × ConfiguredApi))
  | [] => some []
  | (name, j) :: rest => do
    let api ← readApi? j
    let more ← readApis? rest
    return (name, api) :: more

/-- No field of the options is repeated. -/
def readOptions? (j : Json) : Option Options :=
  match j with
  | .object entries =>
    if (entries.map (·.1)).filter optionKeys.contains |>.Nodup then (Options.read j).toOption else none
  | j => (Options.read j).toOption

def read? (j : Json) : Option ConfigFile := do
  let fields ← fields? keys j
  let language ← needed? "language" Reader.string fields
  let specs ←
    match Entries.get? "specs" fields with
    | some (.object entries) => readApis? entries
    | _ => none
  let output ← absentOr? "output" none (Reader.optional Reader.string) fields
  let options ←
    match Entries.get? "opts" fields with
    | none => some {}
    | some j => readOptions? j
  let types ← absentOr? "typeMap" none (Reader.optional TypeTable.read) fields
  return ⟨language, Entries.setAll [] specs, output, options, types.getD ⟨[]⟩⟩

end ConfigFile

namespace Configuration

def defaultOutput : String := "client"

def languageNamed (name : String) : Except RunError Language :=
  match Language.ofName? name with
  | some language => .ok language
  | none => .error (.unknownLanguage name)

/-- The configuration in the text of a config file. Its paths start at the directory of the file. -/
def ofConfigText (path text : String) : Except RunError Configuration :=
  match (Json.excerpt? ConfigFile.interest text).bind ConfigFile.read? with
  | none => .error (.badConfig path)
  | some file => do
    let directory := (Path.parent? path).getD ""
    let language ← languageNamed file.language
    return {
      target := language.target file.types
      apis := file.specs.map fun (name, api) =>
        (name, { api with spec := Path.join directory api.spec })
      output := (file.output.map (Path.join directory)).getD defaultOutput
      options := file.options }

def needed (a : Arguments) (setting : Setting) (flag : String) : Except RunError String :=
  match a.value? setting with
  | some value => .ok value
  | none => .error (.missingFlag flag)

def ofFlags (a : Arguments) : Except RunError Configuration := do
  let language ← languageNamed (← needed a .language "language")
  let spec ← needed a .spec "spec"
  let name ← needed a .name "name"
  return {
    target := language.target ⟨[]⟩
    apis := [(name, ⟨spec, a.value? .className, a.value? .basePath⟩)]
    output := defaultOutput
    options := {} }

def adjust (c : Configuration) (a : Arguments) : Configuration :=
  { c with
    output := (a.value? .output).getD c.output
    options := {
      snake := c.options.snake || a.isOn .snake
      noOperationIds := c.options.noOperationIds || a.isOn .noOperationIds
      version := a.value? .apiVersion <|> c.options.version } }

end Configuration

end SwaggerClient
