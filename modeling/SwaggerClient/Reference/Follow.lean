import SwaggerClient.Reference.Lookup

namespace SwaggerClient

/-- An object of a document that may be given by reference. -/
structure Referable (α : Type) where
  kind : TargetKind
  read : Reader α
  reference? : α → Option String

namespace Referable

def parameter : Referable Parameter :=
  ⟨.parameter, Parameter.read, Parameter.reference⟩

def response : Referable Response :=
  ⟨.response, Response.read, Response.reference⟩

end Referable

namespace Document

variable {α : Type}

/-- Follows at most `room` references; `chain` holds those already followed. -/
def followWithin (d : Document) (target : Referable α) (chain : List String) :
    (room : Nat) → α → Except SynthesisError α
  | 0, value =>
    match target.reference? value with
    | none => .ok value
    | some _ => .error .endless
  | room + 1, value =>
    match target.reference? value with
    | none => .ok value
    | some reference =>
      if reference ∈ chain then .error (cycleError chain reference)
      else do
        let next ← d.lookup target.kind target.read reference
        d.followWithin target (chain ++ [reference]) room next

/-- The object that references lead to. The last one followed is the given one or stands in the document,
and none is followed twice, so there is room enough. -/
def follow (d : Document) (target : Referable α) (value : α) : Except SynthesisError α :=
  d.followWithin target [] (d.referenceBound + 2) value

end Document

end SwaggerClient
