import SwaggerClient.Language.Builtin

namespace SwaggerClient.Target

def anyType (t : Target) : String :=
  match t.types.get? anyKey with
  | some entry => entry.resolve "" none
  | none => "Any"

def tableName? (t : Target) (inner : String) (type format : Option String) : Option String :=
  (t.types.get? (type.getD untypedKey)).map fun entry => entry.resolve inner format

mutual

/-- The name of the values of a map: by reference, or by their type. Objects need a reference. -/
def valueName (t : Target) : Schema → Except SynthesisError String
  | ⟨reference, type, format, description, properties, required, items, additional, values, allOf,
      discriminator⟩ =>
    let schema : Schema :=
      ⟨reference, type, format, description, properties, required, items, additional, values, allOf,
        discriminator⟩
    match reference with
    | some r => .ok (t.rules.classNameOfReference r)
    | none =>
      if type == some "object" then .error (.unsupportedMapValue schema)
      else do
        let inner ← additionalName t additional
        match t.tableName? inner type format with
        | some name => return name
        | none => throw (.unknownShape type schema)
termination_by structural s => s

/-- The name of the values of a map with the given additional properties. -/
def additionalName (t : Target) : Option (Additional Schema) → Except SynthesisError String
  | some (.schema s) => valueName t s
  | some (.allowed _) => .ok t.anyType
  | none => .ok t.anyType
termination_by structural additional => additional

end

/-- The type name for a type, a format and additional properties; `none` when the table lacks the type. -/
def typeName? (t : Target) (type format : Option String) (additional : Option (Additional Schema)) :
    Except SynthesisError (Option String) := do
  let inner ← t.additionalName additional
  return t.tableName? inner type format

def arrayName (t : Target) (item : String) : Except SynthesisError String :=
  match t.types.get? "array" with
  | some entry => .ok (entry.resolve item none)
  | none => .error (.missingTypeEntry "array")

end SwaggerClient.Target
