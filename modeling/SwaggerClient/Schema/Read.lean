import SwaggerClient.Schema.Basic
import SwaggerClient.Structure.Reader

namespace SwaggerClient

/-- Integers that do not fit 64 bits with a sign are kept as floating-point numbers. -/
def EnumValue.read : Reader EnumValue
  | .string s => .ok (.string s)
  | .number (.integer n) => .ok (if n < (Nat.pow 2 63 : Nat) then .integer n else .real (Double.ofInt n))
  | .number (.real x) => .ok (.real x)
  | .bool b => .ok (.bool b)
  | .null => .ok .null
  | .array _ => .error (.noVariant "EnumValue")
  | .object _ => .error (.noVariant "EnumValue")

namespace Schema

def keys : List String :=
  ["$ref", "type", "format", "description", "properties", "required", "items",
    "additionalProperties", "enum", "allOf", "discriminator"]

/-- One value read as each kind of thing that holds schemas. -/
structure Forms where
  schema : Unit → Except StructureError (Option Schema)
  properties : Unit → Except StructureError (Option (List (String × Schema)))
  additional : Unit → Except StructureError (Option (Additional Schema))
  members : Unit → Except StructureError (Option (List Schema))

def setPart (key : String) (value : Json) (forms : Forms) (s : Schema) :
    Except StructureError Schema :=
  match key with
  | "$ref" => do
    let part ← Reader.optional Reader.string value
    return { s with reference := part }
  | "type" => do
    let part ← Reader.optional Reader.string value
    return { s with type := part }
  | "format" => do
    let part ← Reader.optional Reader.string value
    return { s with format := part }
  | "description" => do
    let part ← Reader.optional Reader.string value
    return { s with description := part }
  | "properties" => do
    let part ← forms.properties ()
    return { s with properties := part }
  | "required" => do
    let part ← Reader.optional (Reader.list Reader.string) value
    return { s with required := part }
  | "items" => do
    let part ← forms.schema ()
    return { s with items := part }
  | "additionalProperties" => do
    let part ← forms.additional ()
    return { s with additional := part }
  | "enum" => do
    let part ← Reader.optional (Reader.list EnumValue.read) value
    return { s with values := part }
  | "allOf" => do
    let part ← forms.members ()
    return { s with allOf := part }
  | "discriminator" => do
    let part ← Reader.optional Reader.string value
    return { s with discriminator := part }
  | _ => .ok s

/-- The error for `count` items where `keys` has fewer; a schema that stands beside the fields of
another record reports it in other words. -/
def tooMany (beside : Bool) (count : Nat) : StructureError :=
  if beside then .tooManyBeside count keys.length else .tooMany count

mutual

/-- Reads a schema; `beside` holds below a schema that stands beside the fields of another record. -/
def readIn (beside : Bool) : Json → Except StructureError Schema
  | .object entries => readEntries beside {} entries
  | .array items => readList beside items.length {} keys items
  | j => .error (.unexpected j.found (.record "Schema"))
termination_by structural j => j

def readEntries (beside : Bool) (s : Schema) : List (String × Json) → Except StructureError Schema
  | [] => .ok s
  | (key, value) :: rest => do
    let s ← setPart key value
      ⟨fun _ => readOptional beside value, fun _ => readProperties beside value,
        fun _ => readAdditional beside value, fun _ => readMembers beside value⟩ s
    readEntries beside s rest
termination_by structural entries => entries

/-- Reads the parts from a list of `count` items; `names` are the keys that are left. -/
def readList (beside : Bool) (count : Nat) (s : Schema) (names : List String) :
    List Json → Except StructureError Schema
  | [] =>
    if names.isEmpty then .ok s
    else .error (.tooFew (keys.length - names.length) "Schema" keys.length)
  | value :: rest =>
    match names with
    | [] => .error (tooMany beside count)
    | key :: names => do
      let s ← setPart key value
        ⟨fun _ => readOptional beside value, fun _ => readProperties beside value,
          fun _ => readAdditional beside value, fun _ => readMembers beside value⟩ s
      readList beside count s names rest
termination_by structural items => items

def readOptional (beside : Bool) : Json → Except StructureError (Option Schema)
  | .null => .ok none
  | .object entries => (readEntries beside {} entries).map some
  | .array items => (readList beside items.length {} keys items).map some
  | j => .error (.unexpected j.found (.record "Schema"))
termination_by structural j => j

def readProperties (beside : Bool) :
    Json → Except StructureError (Option (List (String × Schema)))
  | .null => .ok none
  | .object entries => (readMap beside entries).map some
  | j => .error (.unexpected j.found .map)
termination_by structural j => j

def readMap (beside : Bool) :
    List (String × Json) → Except StructureError (List (String × Schema))
  | [] => .ok []
  | (key, value) :: rest => do
    let first ← readIn beside value
    let more ← readMap beside rest
    return (key, first) :: more
termination_by structural entries => entries

/-- A truth value or a schema; what is wrong with the schema is not told. -/
def readAdditional (beside : Bool) : Json → Except StructureError (Option (Additional Schema))
  | .null => .ok none
  | .bool any => .ok (some (.allowed any))
  | .object entries =>
    match readEntries beside {} entries with
    | .ok s => .ok (some (.schema s))
    | .error _ => .error (.noVariant "AdditionalProperties")
  | .array items =>
    match readList beside items.length {} keys items with
    | .ok s => .ok (some (.schema s))
    | .error _ => .error (.noVariant "AdditionalProperties")
  | .number _ => .error (.noVariant "AdditionalProperties")
  | .string _ => .error (.noVariant "AdditionalProperties")
termination_by structural j => j

def readMembers (beside : Bool) : Json → Except StructureError (Option (List Schema))
  | .null => .ok none
  | .array items => (readAll beside items).map some
  | j => .error (.unexpected j.found .sequence)
termination_by structural j => j

def readAll (beside : Bool) : List Json → Except StructureError (List Schema)
  | [] => .ok []
  | j :: rest => do
    let first ← readIn beside j
    let more ← readAll beside rest
    return first :: more
termination_by structural items => items

end

/-- Reads a schema: an object whose known keys are its parts, or the list of all its parts in order. -/
def read : Reader Schema :=
  readIn false

end Schema

end SwaggerClient
