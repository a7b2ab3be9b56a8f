import SwaggerClient.Structure.Error

namespace SwaggerClient

/-- Reads a value of a type from a JSON value, or tells the first problem that is found. -/
abbrev Reader (α : Type) := Json → Except StructureError α

namespace Reader

variable {α : Type}

def string : Reader String
  | .string s => .ok s
  | j => .error (.unexpected j.found .string)

def bool : Reader Bool
  | .bool b => .ok b
  | j => .error (.unexpected j.found .boolean)

/-- Null means that the value is absent. -/
def optional (read : Reader α) : Reader (Option α)
  | .null => .ok none
  | j => (read j).map some

def items (read : Reader α) : List Json → Except StructureError (List α)
  | [] => .ok []
  | j :: rest => do
    let first ← read j
    let more ← items read rest
    return first :: more

def list (read : Reader α) : Reader (List α)
  | .array js => items read js
  | j => .error (.unexpected j.found .sequence)

def entries (read : Reader α) : List (String × Json) → Except StructureError (List (String × α))
  | [] => .ok []
  | (key, j) :: rest => do
    let first ← read j
    let more ← entries read rest
    return (key, first) :: more

def map (read : Reader α) : Reader (List (String × α))
  | .object es => entries read es
  | j => .error (.unexpected j.found .map)

/-- One of several words, given as itself or as the only key of an object that holds null. -/
def choice (choices : List (String × α)) : Reader α
  | .string s => find s
  | .object [(key, value)] => do
    let found ← find key
    match value with
    | .null => return found
    | j => throw (.unexpected j.found .nothing)
  | .object _ => .error .notSingleKey
  | j => .error (.unexpected j.found .choice)
where
  find (word : String) : Except StructureError α :=
    match choices.lookup word with
    | some found => .ok found
    | none => .error (.unknownChoice word (choices.map (·.1)))

end Reader

/-- A field of a record, and whether a list of the fields may end before it. -/
structure Field where
  key : String
  mayEnd : Bool
deriving DecidableEq, Repr

/-- How a record is read: from an object, or from a list of its fields in order. -/
structure Record (ρ : Type) where
  name : String
  fields : List Field
  empty : ρ
  /-- Reads the value of a key into the record; unknown keys change nothing. -/
  set : String → Json → ρ → Except StructureError ρ

namespace Record

variable {ρ : Type}

def readEntries (record : Record ρ) (done : ρ) : List (String × Json) → Except StructureError ρ
  | [] => .ok done
  | (key, value) :: rest => do
    let done ← record.set key value done
    record.readEntries done rest

/-- The list has `count` items; the first of the remaining fields stands at `position`. -/
def readItems (record : Record ρ) (count position : Nat) (done : ρ) :
    List Field → List Json → Except StructureError ρ
  | [], [] => .ok done
  | [], _ :: _ => .error (.tooMany count)
  | field :: fields, [] =>
    match (field :: fields).findIdx? (fun field => !field.mayEnd) with
    | none => .ok done
    | some i => .error (.tooFew (position + i) record.name record.fields.length)
  | field :: fields, value :: rest => do
    let done ← record.set field.key value done
    record.readItems count (position + 1) done fields rest

def read (record : Record ρ) : Reader ρ
  | .object entries => record.readEntries record.empty entries
  | .array items => record.readItems items.length 0 record.empty record.fields items
  | j => .error (.unexpected j.found (.record record.name))

end Record

end SwaggerClient
