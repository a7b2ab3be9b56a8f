import SwaggerClient.Json.Parse

namespace SwaggerClient.Json

/-- Which parts of a value are of interest. -/
inductive Interest where
  | whole
  /-- Of an object the values of some keys; of an array the items, which stand for those values in
  order. -/
  | keys (parts : List (String × Interest))
  /-- Of an object the values of all keys. -/
  | entries (part : Interest)

namespace Interest

def wholeKeys (keys : List String) : Interest :=
  .keys (keys.map fun key => (key, .whole))

def ofKey? (interest : Interest) (key : String) : Option Interest :=
  match interest with
  | whole => some whole
  | keys parts => Entries.get? key parts
  | entries part => some part

def ofItem (interest : Interest) (position : Nat) : Interest :=
  match interest with
  | keys parts => (parts[position]?.map (·.2)).getD whole
  | _ => whole

end Interest

namespace Excerpt

open Parse

/-- An array or an object that has not ended yet. -/
inductive Bracket where
  | array
  | object

def skipString? : List Char → Option (List Char)
  | '"' :: rest => some rest
  | '\\' :: 'u' :: a :: b :: c :: d :: rest =>
    if (hexQuad? a b c d).isSome then skipString? rest else none
  | '\\' :: c :: rest => if (escape? c).isSome then skipString? rest else none
  | c :: rest => if c.toNat < 0x20 then none else skipString? rest
  | [] => none

def skipScalar? : List Char → Option (List Char)
  | 'n' :: 'u' :: 'l' :: 'l' :: rest => some rest
  | 't' :: 'r' :: 'u' :: 'e' :: rest => some rest
  | 'f' :: 'a' :: 'l' :: 's' :: 'e' :: rest => some rest
  | '"' :: rest => skipString? rest
  | text => (numeral? text).map (·.2)

def skipKey? (text : List Char) : Option (List Char) :=
  match skipBlanks text with
  | '"' :: rest =>
    match (skipString? rest).map skipBlanks with
    | some (':' :: rest) => some rest
    | _ => none
  | _ => none

/-- The text after a value that is followed by the ends of some brackets, innermost first; `done` tells
that the value has been passed. Two steps for each character are enough. -/
def skip? : (fuel : Nat) → (done : Bool) → List Bracket → List Char → Option (List Char)
  | 0, _, _, _ => none
  | _ + 1, true, [], text => some text
  | fuel + 1, true, bracket :: outer, text =>
    match bracket, skipBlanks text with
    | .array, ']' :: rest => skip? fuel true outer rest
    | .array, ',' :: rest => skip? fuel false (.array :: outer) rest
    | .object, '}' :: rest => skip? fuel true outer rest
    | .object, ',' :: rest =>
      match skipKey? rest with
      | some rest => skip? fuel false (.object :: outer) rest
      | none => none
    | _, _ => none
  | fuel + 1, false, brackets, text =>
    match skipBlanks text with
    | '[' :: rest =>
      match skipBlanks rest with
      | ']' :: rest => skip? fuel true brackets rest
      | rest => skip? fuel false (.array :: brackets) rest
    | '{' :: rest =>
      match skipBlanks rest with
      | '}' :: rest => skip? fuel true brackets rest
      | rest =>
        match skipKey? rest with
        | some rest => skip? fuel false (.object :: brackets) rest
        | none => none
    | text =>
      match skipScalar? text with
      | some rest => skip? fuel true brackets rest
      | none => none

mutual

/-- The parts of a value, with at most `depth` brackets around each other. Each step uses up one of
`fuel`; `bound` is enough for any value. -/
def value (bound fuel depth : Nat) (interest : Interest) (text : List Char) : Option (Json × List Char) :=
  match fuel with
  | 0 => none
  | fuel + 1 =>
    match interest, depth, skipBlanks text with
    | .whole, depth, text => Parse.value bound depth text
    | interest, depth + 1, '[' :: rest =>
      match skipBlanks rest with
      | ']' :: rest => some (.array [], rest)
      | rest => items bound fuel depth interest [] rest
    | interest, depth + 1, '{' :: rest =>
      match skipBlanks rest with
      | '}' :: rest => some (.object [], rest)
      | rest => entries bound fuel depth interest [] rest
    | _, depth, text => Parse.value bound depth text
termination_by structural fuel

/-- The items of an array up to its end; `done` holds those before, last first. -/
def items (bound fuel depth : Nat) (interest : Interest) (done : List Json) (text : List Char) :
    Option (Json × List Char) :=
  match fuel with
  | 0 => none
  | fuel + 1 =>
    match value bound fuel depth (interest.ofItem done.length) text with
    | none => none
    | some (item, rest) =>
      match skipBlanks rest with
      | ',' :: rest => items bound fuel depth interest (item :: done) rest
      | ']' :: rest => some (.array (item :: done).reverse, rest)
      | _ => none
termination_by structural fuel

/-- The entries of an object up to its end, without the keys that are passed over; `done` holds those
before, last first. -/
def entries (bound fuel depth : Nat) (interest : Interest) (done : List (String × Json))
    (text : List Char) : Option (Json × List Char) :=
  match fuel with
  | 0 => none
  | fuel + 1 =>
    match skipBlanks text with
    | '"' :: rest =>
      match Parse.string [] rest with
      | none => none
      | some (key, rest) =>
        match skipBlanks rest with
        | ':' :: rest =>
          let made :=
            match interest.ofKey? key with
            | some part =>
              (value bound fuel depth part rest).map fun (item, rest) => ((key, item) :: done, rest)
            | none => (skip? bound false [] rest).map fun rest => (done, rest)
          match made with
          | none => none
          | some (done, rest) =>
            match skipBlanks rest with
            | ',' :: rest => entries bound fuel depth interest done rest
            | '}' :: rest => some (.object done.reverse, rest)
            | _ => none
        | _ => none
    | _ => none
termination_by structural fuel

end

end Excerpt

/-- The parts of a JSON text that are of interest, with every entry as it is written. All else has to be well-formed,
but its numbers may have any size, its brackets any depth, and its escapes may be halves of characters. -/
def excerpt? (interest : Interest) (text : String) : Option Json :=
  let chars := text.toList
  let bound := 2 * chars.length + 2
  match Excerpt.value bound bound maxDepth interest chars with
  | some (j, rest) => if (Parse.skipBlanks rest).isEmpty then some j else none
  | none => none

end SwaggerClient.Json
