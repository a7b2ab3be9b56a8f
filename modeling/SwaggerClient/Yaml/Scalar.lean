import SwaggerClient.Json.Parse
import SwaggerClient.Yaml.Cursor

namespace SwaggerClient.Yaml

/-- Blanks and ends of lines between two parts of a scalar. -/
structure Gap where
  /-- A line has ended. -/
  broken : Bool := false
  /-- The blanks before the first end of a line, last first. -/
  blanks : List Char := []
  /-- The first end of a line. -/
  first : Option Char := none
  /-- The further ends of lines, last first. -/
  more : List Char := []

namespace Gap

/-- What stands for the gap in the text: one end of a line counts as a space, of several the first is
dropped. -/
def text (g : Gap) : List Char :=
  if !g.broken then g.blanks.reverse
  else
    match g.first with
    | none => g.more.reverse
    | some c => if c == '\n' then (if g.more.isEmpty then [' '] else g.more.reverse) else c :: g.more.reverse

/-- Passes blanks and ends of lines. `tabLimit` is the column before which no tab may indent a line. -/
def scan (tabLimit : Nat) : (fuel : Nat) → Gap → Cursor → Option (Gap × Cursor)
  | 0, _, _ => none
  | fuel + 1, g, c =>
    match c.peek? with
    | none => some (g, c)
    | some char =>
      if isBlank char then
        if g.broken then
          if char == '\t' && c.column < tabLimit then none else scan tabLimit fuel g (c.advance 1)
        else scan tabLimit fuel { g with blanks := char :: g.blanks } (c.advance 1)
      else
        match c.readBreak? with
        | none => some (g, c)
        | some (newline, next) =>
          if g.broken then scan tabLimit fuel { g with more := newline :: g.more } next
          else scan tabLimit fuel ⟨true, [], some newline, []⟩ next

end Gap

/-- How many characters of a plain scalar come before the next blank or indicator. In a flow collection
a colon may not stand before an indicator. -/
def plainLength? (flow : Bool) : List Char → Option Nat
  | [] => some 0
  | c :: rest =>
    let beforeIndicator :=
      match rest with
      | next :: _ => isFlowIndicator next || next == '?'
      | [] => false
    if isSpace c then some 0
    else if flow && c == ':' && beforeIndicator then none
    else if (c == ':' && startsSpace rest) || (flow && isFlowIndicator c) then some 0
    else (plainLength? flow rest).map (· + 1)

/-- Reads on in a plain scalar; `done` is its text so far, last character first, and `gap` what has been
passed since. Lines have to be indented by `indent`. Tells also whether a line ended after the scalar. -/
def plainScalar (bound : Nat) (flow : Bool) (indent : Nat) :
    (fuel : Nat) → List Char → Gap → Cursor → Option (String × Bool × Cursor)
  | 0, _, _, _ => none
  | fuel + 1, done, gap, c =>
    if c.atDocumentMark || c.at? '#' then some (String.ofList done.reverse, gap.broken, c)
    else
      match plainLength? flow c.rest with
      | none => none
      | some n =>
        let done' := if n = 0 then done else (c.rest.take n).reverse ++ gap.text.reverse ++ done
        let gap' := if n = 0 then gap else {}
        let c' := c.advance n
        match c'.peek? with
        | none => some (String.ofList done'.reverse, gap'.broken, c')
        | some char =>
          if !isSpace char then some (String.ofList done'.reverse, gap'.broken, c')
          else
            match Gap.scan indent bound gap' c' with
            | none => none
            | some (gap'', c'') =>
              if !flow && c''.column < indent then
                some (String.ofList done'.reverse, gap''.broken, c'')
              else plainScalar bound flow indent fuel done' gap'' c''

/-- The characters of a single-quoted scalar before the next blank or its end, and how many characters
they take. A quote is written twice. -/
def singleRun : List Char → List Char × Nat
  | '\'' :: '\'' :: rest =>
    let (chars, n) := singleRun rest
    ('\'' :: chars, n + 2)
  | '\'' :: _ => ([], 0)
  | c :: rest =>
    if isSpace c then ([], 0)
    else
      let (chars, n) := singleRun rest
      (c :: chars, n + 1)
  | [] => ([], 0)

def escape? (c : Char) : Option Char :=
  match c with
  | '0' => some '\x00'
  | 'a' => some '\x07'
  | 'b' => some '\x08'
  | 't' => some '\t'
  | '\t' => some '\t'
  | 'n' => some '\n'
  | 'v' => some '\x0b'
  | 'f' => some '\x0c'
  | 'r' => some '\r'
  | 'e' => some '\x1b'
  | ' ' => some ' '
  | '"' => some '"'
  | '/' => some '/'
  | '\\' => some '\\'
  | 'N' => some '\u0085'
  | '_' => some '\u00a0'
  | 'L' => some '\u2028'
  | 'P' => some '\u2029'
  | _ => none

def escapeWidth? (c : Char) : Option Nat :=
  match c with
  | 'x' => some 2
  | 'u' => some 4
  | 'U' => some 8
  | _ => none

def hexNumber? (digits : List Char) : Option Nat :=
  digits.foldl (fun n c => do return 16 * (← n) + (← Json.Parse.hexDigit? c)) (some 0)

/-- The character with a code, unless the code is that of a surrogate or too large. -/
def charOfCode? (n : Nat) : Option Char :=
  if n < 0xD800 || (0xE000 ≤ n && n ≤ 0x10FFFF) then some (Char.ofNat n) else none

/-- The characters of a double-quoted scalar before the next blank, its end or an escaped end of a line,
and how many characters they take. -/
def doubleRun : (fuel : Nat) → List Char → Option (List Char × Nat)
  | 0, _ => none
  | fuel + 1, text =>
    match text with
    | [] => some ([], 0)
    | '"' :: _ => some ([], 0)
    | '\\' :: [] => none
    | '\\' :: e :: rest =>
      if isBreak e then some ([], 0)
      else
        match escapeWidth? e with
        | none => do
          let char ← escape? e
          let (chars, n) ← doubleRun fuel rest
          return (char :: chars, n + 2)
        | some width => do
          if (rest.take width).length < width then none
          let char ← (hexNumber? (rest.take width)).bind charOfCode?
          let (chars, n) ← doubleRun fuel (rest.drop width)
          return (char :: chars, n + 2 + width)
    | c :: rest =>
      if isSpace c then some ([], 0)
      else do
        let (chars, n) ← doubleRun fuel rest
        return (c :: chars, n + 1)

/-- Reads on in a quoted scalar after its opening quote; `done` is its text so far, last character
first. -/
def quotedScalar (bound : Nat) (quote : Char) : (fuel : Nat) → List Char → Cursor → Option (String × Cursor)
  | 0, _, _ => none
  | fuel + 1, done, c =>
    if c.atDocumentMark || c.rest.isEmpty then none
    else
      let run := if quote == '"' then doubleRun bound c.rest else some (singleRun c.rest)
      match run with
      | none => none
      | some (chars, n) =>
        let done := chars.reverse ++ done
        let c := c.advance n
        let isEscapedBreak := quote == '"' && c.at? '\\'
        let c := if isEscapedBreak then (c.advance 1).skipBreak else c
        if c.at? quote then some (String.ofList done.reverse, c.advance 1)
        else
          match Gap.scan 0 bound { broken := isEscapedBreak } c with
          | none => none
          | some (gap, c) => quotedScalar bound quote fuel (gap.text.reverse ++ done) c

/-- What becomes of the ends of lines after a block scalar. -/
inductive Chomping where
  | strip
  | clip
  | keep
deriving DecidableEq

/-- The header of a block scalar: how it ends, and how far it is indented if that is said. -/
structure BlockHeader where
  chomping : Chomping := .clip
  increment : Option Nat := none

def chomping? (c : Cursor) : Option Chomping :=
  match c.peek? with
  | some '+' => some .keep
  | some '-' => some .strip
  | _ => none

/-- The indentation mark: one digit, which is not zero. -/
def increment? (c : Cursor) : Option (Option Nat × Cursor) :=
  match c.peek? with
  | some char =>
    if char.isDigit then
      if char == '0' then none else some (some (char.toNat - '0'.toNat), c.advance 1)
    else some (none, c)
  | none => some (none, c)

/-- Reads the header after its first mark: chomping and indentation in either order. -/
def blockHeader? (c : Cursor) : Option (BlockHeader × Cursor) := do
  match chomping? c with
  | some chomping =>
    let (increment, c) ← increment? (c.advance 1)
    return (⟨chomping, increment⟩, c)
  | none =>
    let (increment, c) ← increment? c
    match increment, chomping? c with
    | some _, some chomping => return (⟨chomping, increment⟩, c.advance 1)
    | _, _ => return (⟨.clip, increment⟩, c)

/-- Passes empty lines and indentation, at most `indent` columns of it if that is known. Gives the ends
of lines, last first, and the largest column reached. -/
def blockBreaks (indent : Option Nat) :
    (fuel : Nat) → (widest : Nat) → List Char → Cursor → Option (Nat × List Char × Cursor)
  | 0, _, _, _ => none
  | fuel + 1, widest, breaks, c =>
    let spaces := (c.rest.takeWhile (· == ' ')).length
    let c := c.advance (match indent with
      | some limit => min spaces (limit - c.column)
      | none => spaces)
    let widest := max widest c.column
    let indenting := match indent with
      | some limit => decide (c.column < limit)
      | none => true
    if indenting && c.at? '\t' then none
    else
      match c.readBreak? with
      | some (newline, next) => blockBreaks indent fuel widest (newline :: breaks) next
      | none => some (widest, breaks, c)

/-- The lines of a block scalar: its text so far, the end of its last line and the ends of empty lines
after it, all last first. -/
structure BlockText where
  done : List Char := []
  lastBreak : Option Char := none
  breaks : List Char := []
  /-- The last line begins with a blank, so that the end before it was kept. -/
  leadingBlank : Bool := false

/-- What stands in the text for the ends of lines before a new line. In a folded scalar one end of a line
counts as a space, unless one of the lines begins with a blank. -/
def BlockText.joined (b : BlockText) (literal nextBlank : Bool) : List Char :=
  if !literal && b.lastBreak == some '\n' && !b.leadingBlank && !nextBlank then
    if b.breaks.isEmpty then ' ' :: b.done else b.breaks ++ b.done
  else b.breaks ++ b.lastBreak.toList ++ b.done

/-- Reads the lines of a block scalar that are indented by `indent`. -/
def blockLines (bound : Nat) (literal : Bool) (indent : Nat) :
    (fuel : Nat) → BlockText → Cursor → Option (BlockText × Cursor)
  | 0, _, _ => none
  | fuel + 1, b, c =>
    if c.column != indent || c.rest.isEmpty then some (b, c)
    else
      let nextBlank := (c.peek?.map isBlank).getD false
      let line := c.rest.takeWhile fun char => !isBreak char
      let c := c.advance line.length
      let (lastBreak, c) := match c.readBreak? with
        | some (newline, next) => (some newline, next)
        | none => (none, c)
      match blockBreaks (some indent) bound 0 [] c with
      | none => none
      | some (_, breaks, c) =>
        blockLines bound literal indent fuel
          ⟨line.reverse ++ b.joined literal nextBlank, lastBreak, breaks, nextBlank⟩ c

/-- Reads a block scalar after its first mark. `outer` is the indentation of what it stands in. -/
def blockScalar? (bound : Nat) (literal : Bool) (outer : Int) (c : Cursor) : Option (String × Cursor) := do
  let (header, c) ← blockHeader? c
  let c ← c.skipToLineEnd?
  let given := header.increment.map fun n => (max outer 0).toNat + n
  let (widest, breaks, c) ← blockBreaks given bound 0 [] c
  let indent := given.getD (max (max widest (outer + 1).toNat) 1)
  let (b, c) ← blockLines bound literal indent bound { breaks } c
  let ending :=
    match header.chomping with
    | .strip => []
    | .clip => b.lastBreak.toList
    | .keep => b.breaks ++ b.lastBreak.toList
  return (String.ofList (ending ++ b.done).reverse, c)

end SwaggerClient.Yaml
