import SwaggerClient.Entries
import SwaggerClient.Schema.Basic

namespace SwaggerClient.Schema

/-- One list after the other, where there are two. -/
def appendLists {α : Type} : Option (List α) → Option (List α) → Option (List α)
  | target, none => target
  | none, some more => some more
  | some list, some more => some (list ++ more)

mutual

/-- `source` merged over `target`. It wins where one value is needed, and lists are put one after the other. -/
def merge (target : Schema) : (source : Schema) → Schema
  | ⟨reference, type, format, description, properties, required, items, additional, values, allOf,
      discriminator⟩ =>
    { reference := reference <|> target.reference
      type := type <|> target.type
      format := format <|> target.format
      description := description <|> target.description
      properties := mergeProperties target.properties properties
      required := appendLists target.required required
      items := mergeItems target.items items
      additional := mergeAdditional target.additional additional
      values := appendLists target.values values
      allOf := appendLists target.allOf allOf
      discriminator := discriminator <|> target.discriminator }
termination_by structural source => source

/-- Properties merge key by key; new keys come last. -/
def mergeProperties (target : Option (List (String × Schema))) :
    (source : Option (List (String × Schema))) → Option (List (String × Schema))
  | none => target
  | some source => some (mergeEntries (target.getD []) source)
termination_by structural source => source

def mergeEntries (target : List (String × Schema)) :
    (source : List (String × Schema)) → List (String × Schema)
  | [] => target
  | (key, s) :: rest => mergeEntries (Entries.upsert key s (fun old => merge old s) target) rest
termination_by structural source => source

def mergeItems (target : Option Schema) : (source : Option Schema) → Option Schema
  | none => target
  | some source =>
    match target with
    | none => some source
    | some target => some (merge target source)
termination_by structural source => source

/-- Two schemas merge; a truth value takes the place of what was there, and gives it up to a schema. -/
def mergeAdditional (target : Option (Additional Schema)) :
    (source : Option (Additional Schema)) → Option (Additional Schema)
  | none => target
  | some (.allowed any) => some (.allowed any)
  | some (.schema source) =>
    match target with
    | some (.schema target) => some (.schema (merge target source))
    | _ => some (.schema source)
termination_by structural source => source

end

end SwaggerClient.Schema
