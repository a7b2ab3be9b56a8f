import SwaggerClient.Document.Basic
import SwaggerClient.Json.Settled
import SwaggerClient.Schema.Read

namespace SwaggerClient

def Location.read : Reader Location :=
  Reader.choice (Location.all.map fun location => (location.name, location))

namespace Parameter

def setField (key : String) (value : Json) (p : Parameter) : Except StructureError Parameter :=
  match key with
  | "$ref" => do
    let field ← Reader.optional Reader.string value
    return { p with reference := field }
  | "name" => do
    let field ← Reader.optional Reader.string value
    return { p with name := field }
  | "in" => do
    let field ← Reader.optional Location.read value
    return { p with location := field }
  | "required" => do
    let field ← Reader.bool value
    return { p with required := field }
  | "description" => do
    let field ← Reader.optional Reader.string value
    return { p with description := field }
  | "schema" => do
    let field ← Reader.optional Schema.read value
    return { p with schema := field }
  | _ => .ok p

/-- The keys that are never part of the schema beside the fields. -/
def ownKeys : List String :=
  ["$ref", "name", "in", "required", "description", "schema"]

def readFields (p : Parameter) : List (String × Json) → Except StructureError Parameter
  | [] => .ok p
  | (key, value) :: rest => do
    let p ← p.setField key value
    p.readFields rest

/-- Reads a parameter: its own fields first, then the schema that stands beside them. -/
def read : Reader Parameter
  | .object entries => do
    let p ← readFields {} entries
    let beside ← Schema.readEntries true {} (entries.filter fun entry => !ownKeys.contains entry.1)
    return { p with beside := beside }
  | j => .error (.unexpected j.found (.record "Parameter"))

end Parameter

namespace Response

def record : Record Response where
  name := "Response"
  fields := [⟨"$ref", false⟩, ⟨"description", false⟩, ⟨"schema", false⟩]
  empty := {}
  set := fun key value r =>
    match key with
    | "$ref" => do
      let field ← Reader.optional Reader.string value
      return { r with reference := field }
    | "description" => do
      let field ← Reader.optional Reader.string value
      return { r with description := field }
    | "schema" => do
      let field ← Reader.optional Schema.read value
      return { r with schema := field }
    | _ => .ok r

def read : Reader Response :=
  record.read

end Response

namespace Operation

def record : Record Operation where
  name := "Operation"
  fields :=
    [⟨"operationId", false⟩, ⟨"summary", false⟩, ⟨"description", false⟩, ⟨"parameters", false⟩,
      ⟨"responses", true⟩, ⟨"produces", false⟩, ⟨"security", false⟩]
  empty := {}
  set := fun key value op =>
    match key with
    | "operationId" => do
      let field ← Reader.optional Reader.string value
      return { op with operationId := field }
    | "summary" => do
      let field ← Reader.optional Reader.string value
      return { op with summary := field }
    | "description" => do
      let field ← Reader.optional Reader.string value
      return { op with description := field }
    | "parameters" => do
      let field ← Reader.optional (Reader.list Parameter.read) value
      return { op with parameters := field }
    | "responses" => do
      let field ← Reader.map Response.read value
      return { op with responses := field }
    | "produces" => do
      let field ← Reader.optional (Reader.list Reader.string) value
      return { op with produces := field }
    | "security" => do
      let field ← Reader.optional (Reader.list (Reader.map (Reader.list Reader.string))) value
      return { op with security := field }
    | _ => .ok op

def read : Reader Operation :=
  record.read

end Operation

namespace PathItem

def withOperation (item : PathItem) (method : HttpMethod) (op : Option Operation) : PathItem :=
  { item with operation? := fun m => if m = method then op else item.operation? m }

def record : Record PathItem where
  name := "PathItem"
  fields := ⟨"parameters", false⟩ :: HttpMethod.all.map fun method => ⟨method.name, false⟩
  empty := {}
  set := fun key value item =>
    if key = "parameters" then do
      let field ← Reader.optional (Reader.list Parameter.read) value
      return { item with parameters := field }
    else
      match HttpMethod.all.find? (fun method => method.name = key) with
      | some method => do
        let op ← Reader.optional Operation.read value
        return item.withOperation method op
      | none => .ok item

def read : Reader PathItem :=
  record.read

end PathItem

namespace Info

def record : Record Info where
  name := "Info"
  fields := [⟨"title", false⟩, ⟨"version", false⟩]
  empty := {}
  set := fun key value info =>
    match key with
    | "title" => do
      let field ← Reader.optional Reader.string value
      return { info with title := field }
    | "version" => do
      let field ← Reader.optional Reader.string value
      return { info with version := field }
    | _ => .ok info

def read : Reader Info :=
  record.read

end Info

namespace Contents

def record : Record Contents where
  name := "SpecDocument"
  fields := [⟨"paths", true⟩, ⟨"definitions", true⟩, ⟨"basePath", false⟩, ⟨"info", false⟩]
  empty := {}
  set := fun key value contents =>
    match key with
    | "paths" => do
      let field ← Reader.map PathItem.read value
      return { contents with paths := field }
    | "definitions" => do
      let field ← Reader.map Schema.read value
      return { contents with definitions := field }
    | "basePath" => do
      let field ← Reader.optional Reader.string value
      return { contents with basePath := field }
    | "info" => do
      let field ← Reader.optional Info.read value
      return { contents with info := field }
    | _ => .ok contents

def read : Reader Contents :=
  record.read

end Contents

/-- A document: its JSON value, in which each key has one entry, and what it holds according to that
value. -/
structure Document where
  raw : Json
  contents : Contents
  reads : Contents.read raw = .ok contents
  distinct : raw.Distinct

namespace Document

def ofJson (raw : Json) : Except StructureError Document :=
  match reads : Contents.read raw.settle with
  | .ok contents => .ok ⟨raw.settle, contents, reads, raw.settle_distinct⟩
  | .error e => .error e

def version? (d : Document) : Option String :=
  d.contents.info.bind Info.version

end Document

end SwaggerClient
