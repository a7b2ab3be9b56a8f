namespace SwaggerClient.Yaml

def isBlank (c : Char) : Bool :=
  c == ' ' || c == '\t'

def isBreak (c : Char) : Bool :=
  c == '\n' || c == '\r' || c == '\u0085' || c == '\u2028' || c == '\u2029'

def isSpace (c : Char) : Bool :=
  isBlank c || isBreak c

def isNameChar (c : Char) : Bool :=
  ('a' ≤ c && c ≤ 'z') || ('A' ≤ c && c ≤ 'Z') || ('0' ≤ c && c ≤ '9') || c == '-' || c == '_'

def isFlowIndicator (c : Char) : Bool :=
  c == ',' || c == '[' || c == ']' || c == '{' || c == '}'

def isAllowed (c : Char) : Bool :=
  let n := c.toNat
  n == 0x09 || n == 0x0A || n == 0x0D || (0x20 ≤ n && n ≤ 0x7E) || n == 0x85 ||
    (0xA0 ≤ n && n ≤ 0xD7FF) || (0xE000 ≤ n && n ≤ 0xFFFD) || 0x10000 ≤ n

def startsSpace : List Char → Bool
  | [] => true
  | c :: _ => isSpace c

/-- How many octets encode a text. -/
def octetCount (text : List Char) : Nat :=
  text.foldl (fun n c => n + c.utf8Size) 0

/-- A place in a text: the characters that are left, how many octets were passed, and line and column. A
column is a character. -/
structure Cursor where
  rest : List Char
  offset : Nat := 0
  line : Nat := 0
  column : Nat := 0

namespace Cursor

def peek? (c : Cursor) : Option Char :=
  c.rest.head?

def at? (c : Cursor) (char : Char) : Bool :=
  c.rest.head? == some char

def advance (c : Cursor) (n : Nat) : Cursor :=
  { c with
    rest := c.rest.drop n, offset := c.offset + octetCount (c.rest.take n), column := c.column + n }

def skipWhile (c : Cursor) (p : Char → Bool) : Cursor :=
  c.advance (c.rest.takeWhile p).length

def skipLine (c : Cursor) : Cursor :=
  c.skipWhile fun char => !isBreak char

def readBreak? (c : Cursor) : Option (Char × Cursor) :=
  match c.rest with
  | '\r' :: '\n' :: rest => some ('\n', ⟨rest, c.offset + 2, c.line + 1, 0⟩)
  | char :: rest =>
    if isBreak char then
      some (if char == '\u2028' || char == '\u2029' then char else '\n',
        ⟨rest, c.offset + char.utf8Size, c.line + 1, 0⟩)
    else none
  | [] => none

def skipBreak (c : Cursor) : Cursor :=
  match c.readBreak? with
  | some (_, next) => next
  | none => c

def atDocumentMark (c : Cursor) : Bool :=
  c.column == 0 &&
    match c.rest with
    | '-' :: '-' :: '-' :: rest => startsSpace rest
    | '.' :: '.' :: '.' :: rest => startsSpace rest
    | _ => false

/-- Passes blanks and a comment after them, which have to end the line. -/
def skipToLineEnd? (c : Cursor) : Option Cursor :=
  let c := c.skipWhile isBlank
  let c := if c.at? '#' then c.skipLine else c
  match c.peek? with
  | none => some c
  | some char => if isBreak char then some c.skipBreak else none

end Cursor

end SwaggerClient.Yaml
