import SwaggerClient.Json.Basic
import SwaggerClient.Text.Split

namespace SwaggerClient.Json

/-- Every `~1` as a slash. -/
def unescapeSlashes : List Char → List Char
  | '~' :: '1' :: rest => '/' :: unescapeSlashes rest
  | c :: rest => c :: unescapeSlashes rest
  | [] => []

/-- Every `~0` as a tilde. -/
def unescapeTildes : List Char → List Char
  | '~' :: '0' :: rest => '~' :: unescapeTildes rest
  | c :: rest => c :: unescapeTildes rest
  | [] => []

/-- The key that a segment stands for; slashes are put back before tildes. -/
def unescapeSegment (segment : String) : String :=
  String.ofList (unescapeTildes (unescapeSlashes segment.toList))

/-- The place in a list that a segment stands for: decimal digits without a leading zero. -/
def index? (segment : String) : Option Nat :=
  let digits := segment.toList
  if digits.isEmpty || !digits.all Char.isDigit then none
  else if digits.head? == some '0' && 1 < digits.length then none
  else some (digits.foldl (fun n c => 10 * n + (c.toNat - '0'.toNat)) 0)

def step? (segment : String) : Json → Option Json
  | .object entries => Entries.get? segment entries
  | .array items => (index? segment).bind fun i => items[i]?
  | _ => none

def follow? : List String → Json → Option Json
  | [], j => some j
  | segment :: rest, j => (step? segment j).bind (follow? rest)

def pointer? (pointer : String) (j : Json) : Option Json :=
  if pointer.isEmpty then some j
  else if Text.beginsWith '/' pointer then
    follow? (((Text.split '/' pointer).drop 1).map unescapeSegment) j
  else none

end SwaggerClient.Json
