import SwaggerClient.Json.Basic
import SwaggerClient.Number.Text
import SwaggerClient.Text.Split

namespace SwaggerClient.Json

/-- A character inside a JSON string. Only quotes, backslashes and control characters are escaped. -/
def escapedChar (c : Char) : List Char :=
  match c with
  | '"' => ['\\', '"']
  | '\\' => ['\\', '\\']
  | '\x08' => ['\\', 'b']
  | '\x0c' => ['\\', 'f']
  | '\n' => ['\\', 'n']
  | '\r' => ['\\', 'r']
  | '\t' => ['\\', 't']
  | c =>
    if c.toNat < 0x20 then
      ['\\', 'u', '0', '0', Nat.digitChar (c.toNat / 16), Nat.digitChar (c.toNat % 16)]
    else [c]

def quote (text : String) : String :=
  String.ofList ('"' :: text.toList.flatMap escapedChar ++ ['"'])

end Json

def Number.text : Number → String
  | .integer n => toString n
  | .real x => NumberForm.json.text x

namespace Json

mutual

/-- The JSON text of a value without blanks. -/
def compact : Json → String
  | .null => "null"
  | .bool true => "true"
  | .bool false => "false"
  | .number n => n.text
  | .string s => quote s
  | .array items => "[" ++ Text.join "," (compactItems items) ++ "]"
  | .object entries => "\x7b" ++ Text.join "," (compactEntries entries) ++ "\x7d"
termination_by structural j => j

def compactItems : List Json → List String
  | [] => []
  | j :: rest => compact j :: compactItems rest
termination_by structural items => items

def compactEntries : List (String × Json) → List String
  | [] => []
  | (key, value) :: rest => (quote key ++ ":" ++ compact value) :: compactEntries rest
termination_by structural entries => entries

end

def indent (depth : Nat) : String :=
  String.ofList ('\n' :: List.replicate (2 * depth) ' ')

mutual

def prettyAt (depth : Nat) : Json → String
  | .null => "null"
  | .bool true => "true"
  | .bool false => "false"
  | .number n => n.text
  | .string s => quote s
  | .array [] => "[]"
  | .array (item :: items) =>
    "[" ++ Text.join "," (prettyItems (depth + 1) (item :: items)) ++ indent depth ++ "]"
  | .object [] => "\x7b\x7d"
  | .object (entry :: entries) =>
    "\x7b" ++ Text.join "," (prettyEntries (depth + 1) (entry :: entries)) ++ indent depth ++ "\x7d"
termination_by structural j => j

def prettyItems (depth : Nat) : List Json → List String
  | [] => []
  | j :: rest => (indent depth ++ prettyAt depth j) :: prettyItems depth rest
termination_by structural items => items

def prettyEntries (depth : Nat) : List (String × Json) → List String
  | [] => []
  | (key, value) :: rest =>
    (indent depth ++ quote key ++ ": " ++ prettyAt depth value) :: prettyEntries depth rest
termination_by structural entries => entries

end

/-- The JSON text of a value with one item a line. -/
def pretty (j : Json) : String :=
  prettyAt 0 j

end SwaggerClient.Json
