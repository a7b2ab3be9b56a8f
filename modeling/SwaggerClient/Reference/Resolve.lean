import SwaggerClient.Reference.Lookup
import SwaggerClient.Schema.Merge

namespace SwaggerClient

/-- Which parts of a schema are replaced by what they stand for. -/
structure Expansion where
  references : Bool := false
  allOf : Bool := false
  /-- A reference that contributes nothing. -/
  ignored : Option String := none
deriving DecidableEq, Repr

namespace Expansion

/-- References alone. -/
def onlyReferences : Expansion := { references := true }

/-- References and compositions, one reference left out. -/
def full (ignored : Option String) : Expansion := ⟨true, true, ignored⟩

/-- The reference of a schema, if it is to be followed. -/
def follows? (e : Expansion) (reference : Option String) : Option String :=
  if e.references then reference.filter (fun r => e.ignored != some r) else none

/-- The reference that stays in a schema. -/
def keepsReference (e : Expansion) (reference : Option String) : Option String :=
  if e.references then none else reference

/-- The composition that stays in a schema. -/
def keepsAllOf {α : Type} (e : Expansion) (allOf : Option α) : Option α :=
  if e.allOf then none else allOf

end Expansion

namespace Document

/-- How to go on with a schema after a reference was followed; the list holds the references followed
on the way to it. -/
abbrev Continuation := Expansion → List String → Schema → Except SynthesisError Schema

mutual

/-- Replaces the reference and the composition of a schema. After a reference was followed, `again`
expands the merged schema, which may hold those of the schema it led to. -/
def expand (d : Document) (again : Continuation) (e : Expansion) (chain : List String) :
    Schema → Except SynthesisError Schema
  | ⟨reference, type, format, description, properties, required, items, additional, values, allOf,
      discriminator⟩ =>
    let own : Schema :=
      ⟨e.keepsReference reference, type, format, description, properties, required, items, additional,
        values, e.keepsAllOf allOf, discriminator⟩
    match e.follows? reference with
    | some r =>
      if r ∈ chain then .error (cycleError chain r)
      else do
        let target ← d.lookupSchema r
        let merged ← expandAllOf d again e (chain ++ [r]) target allOf
        again e (chain ++ [r]) (merged.merge own)
    | none =>
      if (e.references && reference.isSome) || (e.allOf && allOf.isSome) then do
        let merged ← expandAllOf d again e chain {} allOf
        return merged.merge own
      else
        .ok ⟨reference, type, format, description, properties, required, items, additional, values,
          allOf, discriminator⟩
termination_by structural s => s

/-- Merges the members of a composition over `target`, if compositions are replaced. -/
def expandAllOf (d : Document) (again : Continuation) (e : Expansion) (chain : List String)
    (target : Schema) : Option (List Schema) → Except SynthesisError Schema
  | none => .ok target
  | some members => if e.allOf then expandMembers d again e chain target members else .ok target
termination_by structural allOf => allOf

/-- The reference of a member is always followed, or of two members with one only the last would stay. -/
def expandMembers (d : Document) (again : Continuation) (e : Expansion) (chain : List String)
    (target : Schema) : List Schema → Except SynthesisError Schema
  | [] => .ok target
  | member :: rest => do
    let expanded ← expand d again { e with references := true } chain member
    expandMembers d again e chain (target.merge expanded) rest
termination_by structural members => members

end

/-- Expands a schema, following at most `room` references one after the other. -/
def resolveWithin (d : Document) : (room : Nat) → Continuation
  | 0, e, chain, s => d.expand (fun _ _ _ => .error .endless) e chain s
  | room + 1, e, chain, s => d.expand (d.resolveWithin room) e chain s

/-- Expands a schema. What its reference leads to comes first, then the members of its composition in order, then its
own parts, each merged over what comes before it. A reference is never followed twice on one way, so there is room enough. -/
def resolve (d : Document) (e : Expansion) (s : Schema) : Except SynthesisError Schema :=
  d.resolveWithin (d.referenceBound + s.size) e [] s

end Document

end SwaggerClient
