import SwaggerClient.Entries
import SwaggerClient.Structure.Reader
import SwaggerClient.Text.Split

namespace SwaggerClient

/-- The name of a type. -/
inductive TypeEntry where
  | plain (name : String)
  /-- A container; each pair of braces is a hole for the name of the type inside. -/
  | around (template : String)
  /-- A name for each of some formats, and one for all others. -/
  | byFormat (names : List (String × String)) (default : String)
deriving DecidableEq, Repr

namespace TypeEntry

/-- The template has a hole. -/
def hasHole : List Char → Bool
  | '{' :: '}' :: _ => true
  | _ :: rest => hasHole rest
  | [] => false

/-- Puts a name into every hole. -/
def fillHoles (inner : List Char) : List Char → List Char
  | '{' :: '}' :: rest => inner ++ fillHoles inner rest
  | c :: rest => c :: fillHoles inner rest
  | [] => []

/-- The entry that a name stands for: a container if it has a hole. -/
def ofName (name : String) : TypeEntry :=
  if hasHole name.toList then .around name else .plain name

def resolve (entry : TypeEntry) (inner : String) (format : Option String) : String :=
  match entry with
  | .plain name => name
  | .around template => String.ofList (fillHoles inner.toList template.toList)
  | .byFormat names default => (format.bind fun f => Entries.get? f names).getD default

/-- Reads an entry: a name, or an object of names by format with one under `default`. -/
def read : Reader TypeEntry
  | .string name => .ok (ofName name)
  | j =>
    match Reader.map Reader.string j with
    | .error _ => .error (.noVariant "RawTypeEntry")
    | .ok names =>
      let names := Entries.setAll [] names
      match Entries.get? "default" names with
      | none => .error .noDefault
      | some default => .ok (.byFormat (Entries.erase "default" names) default)

end TypeEntry

/-- A table from types of schemas to type names. -/
structure TypeTable where
  entries : List (String × TypeEntry)
deriving DecidableEq, Repr

namespace TypeTable

def get? (table : TypeTable) (key : String) : Option TypeEntry :=
  Entries.get? key table.entries

def override (table more : TypeTable) : TypeTable :=
  ⟨Entries.setAll table.entries more.entries⟩

def read : Reader TypeTable := fun j => do
  let entries ← Reader.map TypeEntry.read j
  return ⟨Entries.setAll [] entries⟩

end TypeTable

end SwaggerClient
