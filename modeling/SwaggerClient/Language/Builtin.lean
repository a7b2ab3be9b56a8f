import SwaggerClient.Error
import SwaggerClient.Language.TypeTable
import SwaggerClient.Naming.Rules

namespace SwaggerClient

/-- The languages with a type table of their own. -/
inductive Language where
  | swift
  | kotlin
  | js
deriving DecidableEq, Repr

/-- What the synthesis has to know about a target language. -/
structure Target where
  types : TypeTable
  rules : NamingRules
deriving DecidableEq, Repr

/-- The key of a type table for the values of free-form maps. -/
def anyKey : String := "any"

namespace Language

def all : List Language := [.swift, .kotlin, .js]

def name : Language → String
  | .swift => "swift"
  | .kotlin => "kotlin"
  | .js => "js"

def ofName? (name : String) : Option Language :=
  all.find? fun language => language.name = name

def read : Reader Language :=
  Reader.choice (all.map fun language => (language.name, language))

def types : Language → TypeTable
  | .swift => ⟨[
      (untypedKey, .plain "Void"),
      ("boolean", .plain "Bool"),
      ("number", .byFormat [("int64", "Int64"), ("int32", "Int32")] "Double"),
      ("file", .plain "URL"),
      ("object", .around "Dictionary<String, \x7b\x7d>"),
      ("integer", .byFormat [("int64", "Int64")] "Int32"),
      ("string", .byFormat [("date", "Date"), ("date-time", "Date")] "String"),
      ("array", .around "Array<\x7b\x7d>")]⟩
  | .kotlin => ⟨[
      (untypedKey, .plain "Response<Void>"),
      ("boolean", .plain "Boolean"),
      ("number", .byFormat [("int64", "Int"), ("int32", "Int")] "Double"),
      ("file", .plain "MultipartBody.Part"),
      ("object", .around "Map<String, \x7b\x7d>"),
      ("integer", .plain "Int"),
      ("string", .byFormat [("date", "OffsetDateTime"), ("date-time", "OffsetDateTime")] "String"),
      ("array", .around "List<\x7b\x7d>")]⟩
  | .js => ⟨[
      (anyKey, .plain "any"),
      (untypedKey, .plain "void"),
      ("boolean", .plain "boolean"),
      ("number", .plain "number"),
      ("file", .plain "string"),
      ("object", .around "Map<string, \x7b\x7d>"),
      ("integer", .plain "number"),
      ("string", .byFormat [("date", "Date"), ("date-time", "Date")] "string"),
      ("array", .around "Array<\x7b\x7d>")]⟩

def target (language : Language) (overrides : TypeTable) : Target :=
  ⟨language.types.override overrides, .standard⟩

end Language

end SwaggerClient
