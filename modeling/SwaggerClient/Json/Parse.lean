import SwaggerClient.Json.Numeral

namespace SwaggerClient.Json.Parse

def isBlank (c : Char) : Bool :=
  c == ' ' || c == '\n' || c == '\r' || c == '\t'

def skipBlanks (text : List Char) : List Char :=
  text.dropWhile isBlank

def hexDigit? (c : Char) : Option Nat :=
  if '0' ≤ c ∧ c ≤ '9' then some (c.toNat - '0'.toNat)
  else if 'a' ≤ c ∧ c ≤ 'f' then some (c.toNat - 'a'.toNat + 10)
  else if 'A' ≤ c ∧ c ≤ 'F' then some (c.toNat - 'A'.toNat + 10)
  else none

def hexQuad? (a b c d : Char) : Option Nat := do
  return 4096 * (← hexDigit? a) + 256 * (← hexDigit? b) + 16 * (← hexDigit? c) + (← hexDigit? d)

def isHighSurrogate (n : Nat) : Bool := 0xD800 ≤ n && n < 0xDC00

def isLowSurrogate (n : Nat) : Bool := 0xDC00 ≤ n && n < 0xE000

def escape? (c : Char) : Option Char :=
  match c with
  | '"' => some '"'
  | '\\' => some '\\'
  | '/' => some '/'
  | 'b' => some '\x08'
  | 'f' => some '\x0c'
  | 'n' => some '\n'
  | 'r' => some '\r'
  | 't' => some '\t'
  | _ => none

/-- The rest of a string after its opening quote; `done` holds the characters so far, last first.
A surrogate escape has to be followed by its other half. -/
def string (done : List Char) : List Char → Option (String × List Char)
  | '"' :: rest => some (String.ofList done.reverse, rest)
  | '\\' :: 'u' :: a :: b :: c :: d :: rest =>
    match hexQuad? a b c d with
    | none => none
    | some n =>
      if isLowSurrogate n then none
      else if isHighSurrogate n then
        match rest with
        | '\\' :: 'u' :: e :: f :: g :: h :: rest =>
          match hexQuad? e f g h with
          | none => none
          | some m =>
            if isLowSurrogate m then
              string (Char.ofNat (0x10000 + 1024 * (n - 0xD800) + (m - 0xDC00)) :: done) rest
            else none
        | _ => none
      else string (Char.ofNat n :: done) rest
  | '\\' :: c :: rest =>
    match escape? c with
    | none => none
    | some e => string (e :: done) rest
  | c :: rest => if c.toNat < 0x20 then none else string (c :: done) rest
  | [] => none

def digits (text : List Char) : List Nat × List Char :=
  ((text.takeWhile Char.isDigit).map (fun c => c.toNat - '0'.toNat), text.dropWhile Char.isDigit)

def fraction? (text : List Char) : Option (Option (List Nat) × List Char) :=
  match text with
  | '.' :: rest =>
    let (ds, rest) := digits rest
    if ds.isEmpty then none else some (some ds, rest)
  | _ => some (none, text)

def exponentDigits? (negative : Bool) (text : List Char) : Option (Option Int × List Char) :=
  let (ds, rest) := digits text
  if ds.isEmpty then none
  else
    let n : Nat := ds.foldl (fun m d => 10 * m + d) 0
    some (some (if negative then -n else n), rest)

def exponent? (text : List Char) : Option (Option Int × List Char) :=
  match text with
  | 'e' :: '-' :: rest => exponentDigits? true rest
  | 'E' :: '-' :: rest => exponentDigits? true rest
  | 'e' :: '+' :: rest => exponentDigits? false rest
  | 'E' :: '+' :: rest => exponentDigits? false rest
  | 'e' :: rest => exponentDigits? false rest
  | 'E' :: rest => exponentDigits? false rest
  | _ => some (none, text)

/-- A number without its sign, as it is written. No digit may follow a leading zero. -/
def unsigned? (negative : Bool) (text : List Char) : Option (Numeral × List Char) := do
  let (whole, rest) := digits text
  if whole.isEmpty || (whole.head? == some 0 && 1 < whole.length) then none
  let (fraction, rest) ← fraction? rest
  let (exponent, rest) ← exponent? rest
  return (⟨negative, whole, fraction.getD [], exponent.getD 0, fraction.isNone && exponent.isNone⟩, rest)

def numeral? (text : List Char) : Option (Numeral × List Char) :=
  match text with
  | '-' :: rest => unsigned? true rest
  | _ => unsigned? false text

def number? (text : List Char) : Option (Json × List Char) := do
  let (numeral, rest) ← numeral? text
  let value ← numeral.value?
  return (.number value, rest)

mutual

/-- A value with at most `depth` arrays and objects around each other. Each step uses up one of
`fuel`; two for each character are enough. -/
def value (fuel depth : Nat) (text : List Char) : Option (Json × List Char) :=
  match fuel with
  | 0 => none
  | fuel + 1 =>
    match skipBlanks text with
    | 'n' :: 'u' :: 'l' :: 'l' :: rest => some (.null, rest)
    | 't' :: 'r' :: 'u' :: 'e' :: rest => some (.bool true, rest)
    | 'f' :: 'a' :: 'l' :: 's' :: 'e' :: rest => some (.bool false, rest)
    | '"' :: rest => (string [] rest).map fun (s, rest) => (.string s, rest)
    | '[' :: rest =>
      match depth, skipBlanks rest with
      | 0, _ => none
      | _ + 1, ']' :: rest => some (.array [], rest)
      | depth + 1, rest => items fuel depth [] rest
    | '{' :: rest =>
      match depth, skipBlanks rest with
      | 0, _ => none
      | _ + 1, '}' :: rest => some (.object [], rest)
      | depth + 1, rest => entries fuel depth [] rest
    | rest => number? rest
termination_by structural fuel

/-- The items of an array up to its end; `done` holds those before, last first. -/
def items (fuel depth : Nat) (done : List Json) (text : List Char) : Option (Json × List Char) :=
  match fuel with
  | 0 => none
  | fuel + 1 =>
    match value fuel depth text with
    | none => none
    | some (item, rest) =>
      match skipBlanks rest with
      | ',' :: rest => items fuel depth (item :: done) rest
      | ']' :: rest => some (.array (item :: done).reverse, rest)
      | _ => none
termination_by structural fuel

/-- The entries of an object up to its end; `done` holds those before, last first. -/
def entries (fuel depth : Nat) (done : List (String × Json)) (text : List Char) :
    Option (Json × List Char) :=
  match fuel with
  | 0 => none
  | fuel + 1 =>
    match skipBlanks text with
    | '"' :: rest =>
      match string [] rest with
      | none => none
      | some (key, rest) =>
        match skipBlanks rest with
        | ':' :: rest =>
          match value fuel depth rest with
          | none => none
          | some (item, rest) =>
            match skipBlanks rest with
            | ',' :: rest => entries fuel depth ((key, item) :: done) rest
            | '}' :: rest => some (.object ((key, item) :: done).reverse, rest)
            | _ => none
        | _ => none
    | _ => none
termination_by structural fuel

end

/-- The value that a whole text holds, entries as written. -/
def written? (depth : Nat) (text : String) : Option Json :=
  let chars := text.toList
  match value (2 * chars.length + 2) depth chars with
  | some (j, rest) => if (skipBlanks rest).isEmpty then some j else none
  | none => none

end SwaggerClient.Json.Parse

namespace SwaggerClient.Json

/-- How many arrays and objects may stand around each other in a file. -/
def maxDepth : Nat := 127

/-- The value of a JSON text, with every entry as it is written. -/
def asWritten? (text : String) : Option Json :=
  Parse.written? maxDepth text

def ofText? (text : String) : Option Json :=
  (asWritten? text).map settle

end SwaggerClient.Json
