import SwaggerClient.Json.Basic
import SwaggerClient.Number.Text
import SwaggerClient.Text.Quoted
import SwaggerClient.Text.Split

namespace SwaggerClient

/-- What stands where something else is wanted. -/
inductive Found where
  | null
  | bool (value : Bool)
  | number (value : Number)
  | string (value : String)
  | sequence
  | map
deriving DecidableEq, Repr

/-- What is wanted of a value. -/
inductive Wanted where
  | string
  | boolean
  | sequence
  | map
  | record (name : String)
  | choice
  | nothing
deriving DecidableEq, Repr

/-- The first problem met when a value is read. -/
inductive StructureError where
  /-- A value of another kind. -/
  | unexpected (found : Found) (wanted : Wanted)
  /-- A record given as a list that ends before a field that is needed. -/
  | tooFew (position : Nat) (record : String) (fields : Nat)
  /-- A record given as a list with more items than fields. -/
  | tooMany (count : Nat)
  /-- The same, below a field that stands beside the fields of another record. -/
  | tooManyBeside (count fields : Nat)
  /-- None of the forms that a value may take. -/
  | noVariant (name : String)
  /-- A choice of type names by format without a name for the other formats. -/
  | noDefault
  /-- A word that is none of the choices. -/
  | unknownChoice (found : String) (choices : List String)
  /-- A choice given as an object without exactly one key. -/
  | notSingleKey
deriving DecidableEq, Repr

def Json.found : Json → Found
  | .null => .null
  | .bool value => .bool value
  | .number value => .number value
  | .string value => .string value
  | .array _ => .sequence
  | .object _ => .map

namespace Found

def text : Found → String
  | .null => "null"
  | .bool true => "boolean `true`"
  | .bool false => "boolean `false`"
  | .number (.integer n) => "integer `" ++ toString n ++ "`"
  | .number (.real x) => "floating point `" ++ NumberForm.json.text x ++ "`"
  | .string s => "string " ++ Text.quoted s
  | .sequence => "sequence"
  | .map => "map"

end Found

namespace Wanted

def text : Wanted → String
  | .string => "a string"
  | .boolean => "a boolean"
  | .sequence => "a sequence"
  | .map => "a map"
  | .record name => "struct " ++ name
  | .choice => "string or map"
  | .nothing => "unit"

end Wanted

namespace StructureError

def message : StructureError → String
  | .unexpected found wanted => "invalid type: " ++ found.text ++ ", expected " ++ wanted.text
  | .tooFew position record fields =>
    "invalid length " ++ toString position ++ ", expected struct " ++ record ++ " with " ++
      toString fields ++ " elements"
  | .tooMany count =>
    "invalid length " ++ toString count ++ ", expected fewer elements in array"
  | .tooManyBeside count fields =>
    "invalid length " ++ toString count ++ ", expected " ++ toString fields ++ " elements in sequence"
  | .noVariant name => "data did not match any variant of untagged enum " ++ name
  | .noDefault => "format-keyed type entries need a 'default' key"
  | .unknownChoice found choices =>
    "unknown variant `" ++ found ++ "`, expected one of " ++
      Text.join ", " (choices.map fun choice => "`" ++ choice ++ "`")
  | .notSingleKey => "invalid value: map, expected map with a single key"

end StructureError

end SwaggerClient
