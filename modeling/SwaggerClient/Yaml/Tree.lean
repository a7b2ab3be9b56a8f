import SwaggerClient.Yaml.Lexer
import SwaggerClient.Yaml.Node
import SwaggerClient.Yaml.Value

namespace SwaggerClient.Yaml

/-- How many collections may stand around each other. -/
def maxDepth : Nat := 128

/-- How many aliases are replaced for each event of a document. -/
def aliasesPerEvent : Nat := 100

/-- The node that bears a number: of several the last one to start. -/
def anchoredNode? (anchored : List Anchored) (number : Nat) : Option Node :=
  let bearing := anchored.filter fun a => a.number == number
  (bearing.foldl
    (fun (best : Option Anchored) a =>
      match best with
      | none => some a
      | some b => if b.start < a.start then some a else some b)
    none).map Anchored.node

/-- A computation that counts the aliases replaced so far. -/
abbrev Counting (α : Type) := Nat → Option (α × Nat)

def dealias (d : Composed) (node : Node) : Counting Node := fun replaced =>
  match node with
  | .alias number =>
    if aliasesPerEvent * d.events < replaced + 1 then none
    else (anchoredNode? d.anchored number).map fun target => (target, replaced + 1)
  | node => some (node, replaced)

def key? (d : Composed) (node : Node) : Counting String := fun replaced => do
  let (node, replaced) ← dealias d node replaced
  match node with
  | .scalar _ text _ => return (text, replaced)
  | _ => none

def itemsWith (convert : Node → Counting Json) : List Node → Counting (List Json)
  | [], replaced => some ([], replaced)
  | node :: rest, replaced => do
    let (first, replaced) ← convert node replaced
    let (more, replaced) ← itemsWith convert rest replaced
    return (first :: more, replaced)

/-- The entries of a mapping. A later entry of a key takes the place of an earlier one. -/
def entriesWith (d : Composed) (convert : Node → Counting Json) (done : List (String × Json)) :
    List (Node × Node) → Counting (List (String × Json))
  | [], replaced => some (done, replaced)
  | (key, value) :: rest, replaced => do
    let (key, replaced) ← key? d key replaced
    let (value, replaced) ← convert value replaced
    entriesWith d convert (Entries.set key value done) rest replaced

/-- The value of a node, with at most `depth` collections around each other. -/
def convert (d : Composed) : (depth : Nat) → Node → Counting Json
  | depth, node, replaced => do
    let (node, replaced) ← dealias d node replaced
    match node with
    | .scalar tag text plain =>
      let value ← scalarValue? tag plain text
      return (value, replaced)
    | .sequence tag items =>
      if tag.any Tag.isLocal then none
      match depth with
      | 0 => none
      | depth + 1 =>
        let (items, replaced) ← itemsWith (convert d depth) items replaced
        return (.array items, replaced)
    | .mapping tag entries =>
      if tag.any Tag.isLocal then none
      match depth with
      | 0 => none
      | depth + 1 =>
        let (entries, replaced) ← entriesWith d (convert d depth) [] entries replaced
        return (.object entries, replaced)
    | .alias _ => none
termination_by depth => depth

/-- The value of a YAML text that holds one document or none. -/
def value? (text : String) : Option Json := do
  let tokens ← tokens? text
  match ← onlyDocument? tokens with
  | none => return .null
  | some d =>
    let (value, _) ← convert d maxDepth d.root 0
    return value

end SwaggerClient.Yaml
