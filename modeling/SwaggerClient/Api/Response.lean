import SwaggerClient.Document.Basic
import SwaggerClient.Text.Split

namespace SwaggerClient.Response

/-- The status code that a key is: digits of a number of at most 16 bits. -/
def statusCode? (key : String) : Option Nat :=
  let digits := key.toList
  if digits.isEmpty || !digits.all Char.isDigit then none
  else
    let n : Nat := digits.foldl (fun m c => 10 * m + (c.toNat - '0'.toNat)) 0
    if n < Nat.pow 2 16 then some n else none

/-- The first of the keys with the least status code; keys that are no status code do not count. -/
def leastCode? : List String → Option (Nat × String)
  | [] => none
  | key :: rest =>
    match statusCode? key, leastCode? rest with
    | none, best => best
    | some n, none => some (n, key)
    | some n, some (m, other) => if n ≤ m then some (n, key) else some (m, other)

/-- Of the keys that begin with a digit, the one with the least status code, else the first one. -/
def bestOfClass? (digit : Char) (keys : List String) : Option String :=
  let members := keys.filter (Text.beginsWith digit)
  ((leastCode? members).map (·.2)).or members.head?

/-- The key of the response that describes a successful call. -/
def select? (keys : List String) : Option String :=
  ((bestOfClass? '2' keys).or (bestOfClass? '3' keys)).or
    (if "default" ∈ keys then some "default" else none)

end SwaggerClient.Response
