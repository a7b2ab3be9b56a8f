import SwaggerClient.Yaml.Scalar
import SwaggerClient.Yaml.Token

namespace SwaggerClient.Yaml

/-- A token that may turn out to be a key. -/
structure KeyCandidate where
  /-- A colon has to follow, since the token stands where a key of the block mapping is due. -/
  required : Bool
  /-- How many tokens come before it. -/
  position : Nat
  offset : Nat
  line : Nat
  column : Nat

/-- The tokens so far, the place after them, and what decides how the text goes on. -/
structure Lexer where
  cursor : Cursor
  /-- Larger than the number of characters of the text. -/
  bound : Nat
  tokens : Array Token := #[]
  /-- How many flow collections are open. -/
  flowLevel : Nat := 0
  /-- The column of the innermost block collection. -/
  indent : Int := -1
  /-- The columns of the block collections around it, innermost first. -/
  indents : List Int := []
  /-- A key may start here. -/
  keyAllowed : Bool := true
  /-- The latest candidate of each open flow collection, innermost first, and of the block around them. -/
  candidates : List (Option KeyCandidate) := [none]

namespace Lexer

def inFlow (l : Lexer) : Bool :=
  0 < l.flowLevel

def emit (l : Lexer) (t : Token) : Lexer :=
  { l with tokens := l.tokens.push t }

/-- Appends a token of `n` characters. -/
def emitAt (l : Lexer) (t : Token) (n : Nat) : Lexer :=
  { l.emit t with cursor := l.cursor.advance n }

def insertToken (l : Lexer) (position : Nat) (t : Token) : Lexer :=
  { l with tokens := l.tokens.insertIdxIfInBounds position t }

/-- Passes blanks, comments and ends of lines before a token. Tabs may not indent a key of a block
mapping. A mark of the byte order may begin a line; it takes a column. -/
def skipToToken : (fuel : Nat) → Lexer → Lexer
  | 0, l => l
  | fuel + 1, l =>
    let c := if l.cursor.column == 0 && l.cursor.at? '\uFEFF' then l.cursor.advance 1 else l.cursor
    let c := c.skipWhile fun char => char == ' ' || (char == '\t' && (l.inFlow || !l.keyAllowed))
    let c := if c.at? '#' then c.skipLine else c
    match c.readBreak? with
    | some (_, next) => skipToToken fuel { l with cursor := next, keyAllowed := l.keyAllowed || !l.inFlow }
    | none => { l with cursor := c }

/-- How many octets a key may take with its marks. -/
def maxKeySize : Nat := 1024

/-- Gives up the candidates on earlier lines or too far back; none that is required may be among
them. -/
def dropStale (l : Lexer) : Option Lexer := do
  let candidates ← l.candidates.mapM fun candidate =>
    match candidate with
    | none => some none
    | some k =>
      if k.line < l.cursor.line || k.offset + maxKeySize < l.cursor.offset then
        if k.required then none else some none
      else some (some k)
  return { l with candidates }

/-- Gives up the latest candidate, unless it is required. -/
def dropCandidate (l : Lexer) : Option Lexer :=
  match l.candidates with
  | some k :: rest => if k.required then none else some { l with candidates := none :: rest }
  | _ => some l

/-- Makes the next token the latest candidate, where a key may start. -/
def saveCandidate (l : Lexer) : Option Lexer :=
  if l.keyAllowed then do
    let l ← l.dropCandidate
    let c := l.cursor
    let k : KeyCandidate :=
      ⟨!l.inFlow && l.indent == (c.column : Int), l.tokens.size, c.offset, c.line, c.column⟩
    return { l with candidates := some k :: l.candidates.drop 1 }
  else some l

/-- Opens a block collection at a column that is further in than the present one; its start goes before the
token at a position. -/
def openBlock (l : Lexer) (column position : Nat) (start : Token) : Lexer :=
  if !l.inFlow && l.indent < (column : Int) then
    { l.insertToken position start with indents := l.indent :: l.indents, indent := column }
  else l

/-- Closes the block collections that are further in than a column. -/
def closeBlocks (column : Int) : (indents : List Int) → Lexer → Lexer
  | [], l => l
  | outer :: rest, l =>
    if column < l.indent then
      closeBlocks column rest { l.emit .blockEnd with indent := outer, indents := rest }
    else l

/-- Closes the block collections that are further in than a column, outside of flow collections. -/
def closeTo (l : Lexer) (column : Int) : Lexer :=
  if l.inFlow then l else closeBlocks column l.indents l

def endStream (l : Lexer) : Option Lexer := do
  let l ← (l.closeTo (-1)).dropCandidate
  return { l.emit .streamEnd with keyAllowed := false }

def documentMark (l : Lexer) (t : Token) : Option Lexer := do
  let l ← (l.closeTo (-1)).dropCandidate
  return { l.emitAt t 3 with keyAllowed := false }

def flowStart (l : Lexer) (t : Token) : Option Lexer := do
  let l ← l.saveCandidate
  return { l.emitAt t 1 with
    flowLevel := l.flowLevel + 1, candidates := none :: l.candidates, keyAllowed := true }

def flowEnd (l : Lexer) (t : Token) : Option Lexer := do
  let l ← l.dropCandidate
  let candidates := if l.inFlow then l.candidates.drop 1 else l.candidates
  return { l.emitAt t 1 with flowLevel := l.flowLevel - 1, candidates, keyAllowed := false }

def flowEntry (l : Lexer) : Option Lexer := do
  let l ← l.dropCandidate
  return { l.emitAt .flowEntry 1 with keyAllowed := true }

def blockEntry (l : Lexer) : Option Lexer := do
  if !l.inFlow && !l.keyAllowed then none
  let l := l.openBlock l.cursor.column l.tokens.size .blockSequenceStart
  let l ← l.dropCandidate
  return { l.emitAt .blockEntry 1 with keyAllowed := true }

def keyMark (l : Lexer) : Option Lexer := do
  if !l.inFlow && !l.keyAllowed then none
  let l := l.openBlock l.cursor.column l.tokens.size .blockMappingStart
  let l ← l.dropCandidate
  return { l.emitAt .key 1 with keyAllowed := !l.inFlow }

/-- A colon after a key. The latest candidate, if there is one, is that key. -/
def valueMark (l : Lexer) : Option Lexer :=
  match l.candidates with
  | some k :: rest =>
    let l := (l.insertToken k.position .key).openBlock k.column k.position .blockMappingStart
    some { l.emitAt .value 1 with candidates := none :: rest, keyAllowed := false }
  | _ => do
    if !l.inFlow && !l.keyAllowed then none
    let l := l.openBlock l.cursor.column l.tokens.size .blockMappingStart
    return { l.emitAt .value 1 with keyAllowed := !l.inFlow }

/-- The name of an alias or anchor after its mark; a blank or an indicator has to follow it. -/
def nameAfterMark? (c : Cursor) : Option (String × Cursor) :=
  let name := c.rest.takeWhile isNameChar
  let c := c.advance name.length
  let ends :=
    match c.peek? with
    | none => true
    | some char => isSpace char || "?:,]\x7d%@`".toList.contains char
  if name.isEmpty || !ends then none else some (String.ofList name, c)

def nameToken (l : Lexer) (make : String → Token) : Option Lexer := do
  let l ← l.saveCandidate
  let (name, cursor) ← nameAfterMark? (l.cursor.advance 1)
  return { l.emit (make name) with cursor, keyAllowed := false }

def tagToken (l : Lexer) : Option Lexer := do
  let l ← l.saveCandidate
  let (handle, suffix, cursor) ← Tag.parts? l.bound l.cursor
  let ends :=
    match cursor.peek? with
    | none => true
    | some char => isSpace char || (l.inFlow && char == ',')
  if !ends then none
  return { l.emit (.tag handle suffix) with cursor, keyAllowed := false }

/-- A number of a version: one to nine digits. -/
def versionNumber? (c : Cursor) : Option (Nat × Cursor) :=
  let digits := c.rest.takeWhile Char.isDigit
  if digits.isEmpty || 9 < digits.length then none
  else
    some (digits.foldl (fun n d => 10 * n + (d.toNat - '0'.toNat)) 0, c.advance digits.length)

def declaredHandle? (c : Cursor) : Option (String × Cursor) :=
  match c.rest with
  | '!' :: rest =>
    let name := rest.takeWhile isNameChar
    match rest.drop name.length with
    | '!' :: _ => some (String.ofList ('!' :: name ++ ['!']), c.advance (name.length + 2))
    | _ => if name.isEmpty then some ("!", c.advance 1) else none
  | _ => none

def directiveValue? (bound : Nat) (name : String) (c : Cursor) : Option (Token × Cursor) :=
  let c := c.skipWhile isBlank
  if name = "YAML" then do
    let (major, c) ← versionNumber? c
    if !c.at? '.' then none
    let (minor, c) ← versionNumber? (c.advance 1)
    return (.versionDirective major minor, c)
  else if name = "TAG" then do
    let (handle, c) ← declaredHandle? c
    if !(c.peek?.map isBlank).getD false then none
    let c := c.skipWhile isBlank
    let (start, c) ← Tag.part? bound true c
    if !startsSpace c.rest then none
    return (.tagDirective handle start, c)
  else none

def directive (l : Lexer) : Option Lexer := do
  let l ← (l.closeTo (-1)).dropCandidate
  let c := l.cursor.advance 1
  let name := c.rest.takeWhile isNameChar
  let c := c.advance name.length
  if name.isEmpty || !startsSpace c.rest then none
  let (token, c) ← directiveValue? l.bound (String.ofList name) c
  let cursor ← c.skipToLineEnd?
  return { l.emit token with cursor, keyAllowed := false }

def blockScalarToken (l : Lexer) (literal : Bool) : Option Lexer := do
  let l ← l.dropCandidate
  let (text, cursor) ← blockScalar? l.bound literal l.indent (l.cursor.advance 1)
  return { l.emit (.scalar text false) with cursor, keyAllowed := true }

def quotedToken (l : Lexer) (quote : Char) : Option Lexer := do
  let l ← l.saveCandidate
  let (text, cursor) ← quotedScalar l.bound quote l.bound [] (l.cursor.advance 1)
  return { l.emit (.scalar text false) with cursor, keyAllowed := false }

/-- A plain scalar. When a line ends after it, a key may follow. -/
def plainToken (l : Lexer) : Option Lexer := do
  let l ← l.saveCandidate
  let (text, broken, cursor) ←
    plainScalar l.bound l.inFlow (l.indent + 1).toNat l.bound [] {} l.cursor
  return { l.emit (.scalar text true) with cursor, keyAllowed := broken }

/-- A plain scalar may start with a character, given what follows it. -/
def startsPlain (l : Lexer) (c : Char) (rest : List Char) : Bool :=
  !(isSpace c || "-?:,[]\x7b\x7d#&*!|>'\"%@`".toList.contains c) ||
    (c == '-' && !(rest.head?.map isBlank).getD false) ||
    (!l.inFlow && (c == '?' || c == ':') && !startsSpace rest)

def next (l : Lexer) : Option Lexer := do
  let l ← (skipToToken l.bound l).dropStale
  let l := l.closeTo l.cursor.column
  match l.cursor.rest with
  | [] => l.endStream
  | c :: rest =>
    if c == '%' && l.cursor.column == 0 then l.directive
    else if l.cursor.atDocumentMark then
      l.documentMark (if c == '-' then .documentStart else .documentEnd)
    else if c == '[' then l.flowStart .flowSequenceStart
    else if c == '{' then l.flowStart .flowMappingStart
    else if c == ']' then l.flowEnd .flowSequenceEnd
    else if c == '}' then l.flowEnd .flowMappingEnd
    else if c == ',' then l.flowEntry
    else if c == '-' && startsSpace rest then l.blockEntry
    else if c == '?' && (l.inFlow || startsSpace rest) then l.keyMark
    else if c == ':' && (l.inFlow || startsSpace rest) then l.valueMark
    else if c == '*' then l.nameToken .alias
    else if c == '&' then l.nameToken .anchor
    else if c == '!' then l.tagToken
    else if c == '|' && !l.inFlow then l.blockScalarToken true
    else if c == '>' && !l.inFlow then l.blockScalarToken false
    else if c == '\'' || c == '"' then l.quotedToken c
    else if l.startsPlain c rest then l.plainToken
    else none

def run : (fuel : Nat) → Lexer → Option (Array Token)
  | 0, _ => none
  | fuel + 1, l =>
    match l.next with
    | none => none
    | some l => if l.tokens.back? == some .streamEnd then some l.tokens else run fuel l

end Lexer

/-- The tokens of a text, or `none` when it is malformed. -/
def tokens? (text : String) : Option (List Token) :=
  let chars := text.toList
  if chars.all isAllowed then
    let bound := chars.length + 2
    (Lexer.run bound { cursor := { rest := chars }, bound }).map Array.toList
  else none

end SwaggerClient.Yaml
