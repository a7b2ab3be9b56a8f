import SwaggerClient.Json.Parse
import SwaggerClient.Yaml.Cursor

namespace SwaggerClient.Yaml

/-- A tag. The octets that its text escapes need not make up characters. -/
structure Tag where
  octets : List UInt8
deriving DecidableEq, Repr

namespace Tag

def octetsOf (text : List Char) : List UInt8 :=
  text.flatMap String.utf8EncodeChar

def ofText (text : String) : Tag :=
  ⟨octetsOf text.toList⟩

def null : Tag := ofText "tag:yaml.org,2002:null"
def bool : Tag := ofText "tag:yaml.org,2002:bool"
def int : Tag := ofText "tag:yaml.org,2002:int"
def float : Tag := ofText "tag:yaml.org,2002:float"

def isMarked (tag : Tag) : Bool :=
  tag.octets.head? == some 0x21

/-- A tag of the document itself: an exclamation mark, and a name unless its octets encode no text. -/
def isLocal (tag : Tag) : Bool :=
  tag.isMarked && (ByteArray.mk (tag.octets.drop 1).toArray).validateUTF8

/-- The octets before the first zero. -/
def beforeZero (octets : List UInt8) : List UInt8 :=
  octets.takeWhile (· != 0)

def width? (octet : Nat) : Option Nat :=
  if octet < 0x80 then some 1
  else if octet / 32 == 6 then some 2
  else if octet / 16 == 14 then some 3
  else if octet / 8 == 30 then some 4
  else none

/-- An escaped octet: a percent sign and two hexadecimal digits. -/
def octet? : List Char → Option (Nat × List Char)
  | '%' :: a :: b :: rest => do
    return (16 * (← Json.Parse.hexDigit? a) + (← Json.Parse.hexDigit? b), rest)
  | _ => none

def moreOctets? : (count : Nat) → List Char → Option (List UInt8)
  | 0, _ => some []
  | count + 1, text => do
    let (octet, rest) ← octet? text
    if octet / 64 != 2 then none
    return octet.toUInt8 :: (← moreOctets? count rest)

/-- The octets of an escaped character. Their number fits the first one; what they encode does not
matter. -/
def escaped? (text : List Char) : Option (List UInt8) := do
  let (octet, rest) ← octet? text
  let width ← width? octet
  return octet.toUInt8 :: (← moreOctets? (width - 1) rest)

/-- A character of a tag; brackets and commas belong only to one in angle brackets. -/
def isTagChar (verbatim : Bool) (c : Char) : Bool :=
  isNameChar c || ";/?:@&=+$.%!~*'()".toList.contains c ||
    (verbatim && (c == ',' || c == '[' || c == ']'))

/-- Reads the characters of a tag; `done` holds the octets before them, last first. -/
def octets? (verbatim : Bool) : (fuel : Nat) → List UInt8 → Cursor → Option (List UInt8 × Cursor)
  | 0, _, _ => none
  | fuel + 1, done, c =>
    match c.peek? with
    | none => some (done.reverse, c)
    | some char =>
      if !isTagChar verbatim char then some (done.reverse, c)
      else if char == '%' then
        match escaped? c.rest with
        | some octets => octets? verbatim fuel (octets.reverse ++ done) (c.advance (3 * octets.length))
        | none => none
      else octets? verbatim fuel ((octetsOf [char]).reverse ++ done) (c.advance 1)

/-- The octets of one or more characters of a tag, up to a zero, and the place after the characters. -/
def part? (bound : Nat) (verbatim : Bool) (c : Cursor) : Option (List UInt8 × Cursor) := do
  let (octets, c) ← octets? verbatim bound [] c
  if octets.isEmpty then none
  return (beforeZero octets, c)

/-- Handle and suffix of a tag, and the place after it. Without a handle the suffix is the tag. -/
def parts? (bound : Nat) (c : Cursor) : Option (String × List UInt8 × Cursor) :=
  match c.rest with
  | '!' :: '<' :: _ => do
    let (suffix, c) ← part? bound true (c.advance 2)
    if !c.at? '>' then none
    return ("", suffix, c.advance 1)
  | '!' :: rest =>
    let name := rest.takeWhile isNameChar
    match rest.drop name.length with
    | '!' :: _ => do
      let (suffix, c) ← part? bound false (c.advance (name.length + 2))
      return (String.ofList ('!' :: name ++ ['!']), suffix, c)
    | _ => do
      let (octets, c) ← octets? false bound [] (c.advance 1)
      let suffix := beforeZero octets
      return (if suffix.isEmpty then ("", octetsOf ['!'], c) else ("!", suffix, c))
  | _ => none

end Tag

end SwaggerClient.Yaml
