import SwaggerClient.Number.Text

namespace SwaggerClient

/-- A value that an enumeration lists. -/
inductive EnumValue where
  | string (s : String)
  | integer (n : Int)
  | real (x : Double)
  | bool (b : Bool)
  | null
deriving DecidableEq, Repr

def EnumValue.text : EnumValue → String
  | .string s => s
  | .integer n => toString n
  | .real x => NumberForm.literal.text x
  | .bool true => "true"
  | .bool false => "false"
  | .null => "null"

/-- What an object may hold besides its declared properties: anything or nothing, or values of one
schema. -/
inductive Additional (σ : Type) where
  | allowed (any : Bool)
  | schema (value : σ)
deriving DecidableEq, Repr

/-- A schema. -/
structure Schema where
  reference : Option String := none
  type : Option String := none
  format : Option String := none
  description : Option String := none
  properties : Option (List (String × Schema)) := none
  required : Option (List String) := none
  items : Option Schema := none
  additional : Option (Additional Schema) := none
  values : Option (List EnumValue) := none
  allOf : Option (List Schema) := none
  discriminator : Option String := none
deriving Repr, Inhabited

namespace Schema

/-- The declared type is `object` or left out. -/
def mayBeObject (s : Schema) : Bool :=
  s.type.isNone || s.type == some "object"

/-- An object declared in place rather than by a reference. -/
def isInlineObject (s : Schema) : Bool :=
  s.reference.isNone && s.properties.isSome && s.mayBeObject

def isRequired (s : Schema) (property : String) : Bool :=
  (s.required.getD []).contains property

/-- The kind of type that a schema without references and compositions describes. -/
inductive Shape where
  | enumeration (baseType : Option String) (values : List EnumValue)
  | array (items : Option Schema)
  | object (properties : List (String × Schema))
  | primitive (type format : Option String)

/-- Listed values come first, then arrays, then objects with properties. -/
def shape (s : Schema) : Shape :=
  match s.values with
  | some values => .enumeration s.type values
  | none =>
    if s.type == some "array" then .array s.items
    else
      match s.properties with
      | some properties =>
        if s.mayBeObject then .object properties else .primitive s.type s.format
      | none => .primitive s.type s.format

mutual

/-- How many schemas a schema consists of, itself included. -/
def size : Schema → Nat
  | ⟨_, _, _, _, properties, _, items, additional, _, allOf, _⟩ =>
    1 + sizeProperties properties + sizeItems items + sizeAdditional additional + sizeAllOf allOf
termination_by structural s => s

def sizeProperties : Option (List (String × Schema)) → Nat
  | none => 0
  | some properties => sizeEntries properties
termination_by structural properties => properties

def sizeEntries : List (String × Schema) → Nat
  | [] => 0
  | (_, s) :: rest => size s + sizeEntries rest
termination_by structural entries => entries

def sizeItems : Option Schema → Nat
  | none => 0
  | some s => size s
termination_by structural items => items

def sizeAdditional : Option (Additional Schema) → Nat
  | none => 0
  | some (.allowed _) => 0
  | some (.schema s) => size s
termination_by structural additional => additional

def sizeAllOf : Option (List Schema) → Nat
  | none => 0
  | some members => sizeMembers members
termination_by structural allOf => allOf

def sizeMembers : List Schema → Nat
  | [] => 0
  | s :: rest => size s + sizeMembers rest
termination_by structural members => members

end

end Schema

end SwaggerClient
