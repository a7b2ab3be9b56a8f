import SwaggerClient.Json.Basic
import SwaggerClient.Yaml.Tag

namespace SwaggerClient.Yaml

def isNull (text : String) : Bool :=
  ["null", "Null", "NULL", "~"].contains text

def bool? (text : String) : Option Bool :=
  if ["true", "True", "TRUE"].contains text then some true
  else if ["false", "False", "FALSE"].contains text then some false
  else none

def digit? (base : Nat) (c : Char) : Option Nat :=
  let value :=
    if '0' ≤ c ∧ c ≤ '9' then some (c.toNat - '0'.toNat)
    else if 'a' ≤ c ∧ c ≤ 'f' then some (c.toNat - 'a'.toNat + 10)
    else if 'A' ≤ c ∧ c ≤ 'F' then some (c.toNat - 'A'.toNat + 10)
    else none
  value.filter (· < base)

def natural? (base : Nat) (digits : List Char) : Option Nat :=
  if digits.isEmpty then none
  else digits.foldl (fun n c => do return base * (← n) + (← digit? base c)) (some 0)

/-- Digits with a leading zero, which are no number. -/
def isPaddedNumber (digits : List Char) : Bool :=
  digits.head? == some '0' && 1 < digits.length && digits.all Char.isDigit

/-- A number without a sign: decimal, or in base sixteen, eight or two after a mark. -/
def magnitude? (digits : List Char) : Option Nat :=
  match digits with
  | '0' :: 'x' :: rest => natural? 16 rest
  | '0' :: 'o' :: rest => natural? 8 rest
  | '0' :: 'b' :: rest => natural? 2 rest
  | _ => if isPaddedNumber digits then none else natural? 10 digits

def unsigned (text : List Char) : Bool × List Char :=
  match text with
  | '-' :: rest => (true, rest)
  | '+' :: rest => (false, rest)
  | _ => (false, text)

def integer? (text : String) : Option Int :=
  let (negative, digits) := unsigned text.toList
  (magnitude? digits).map fun n => if negative then -(n : Int) else n

/-- What an integer is kept as: itself if it fits 64 bits; one that fits only 128 bits cannot be
kept, and a larger one is no integer. -/
inductive IntegerKind where
  | kept
  | unkept
  | none
deriving DecidableEq

def integerKind (n : Int) : IntegerKind :=
  if -(Nat.pow 2 63 : Nat) ≤ n ∧ n < (Nat.pow 2 64 : Nat) then .kept
  else if -(Nat.pow 2 127 : Nat) ≤ n ∧ n < (Nat.pow 2 128 : Nat) then .unkept
  else .none

/-- A decimal number without a sign: digits with or without a point, at least one of them, and perhaps an
exponent. -/
def decimal? (text : List Char) : Option (Nat × Int) :=
  let whole := text.takeWhile Char.isDigit
  let rest := text.drop whole.length
  let (fraction, rest) :=
    match rest with
    | '.' :: rest =>
      let fraction := rest.takeWhile Char.isDigit
      (fraction, rest.drop fraction.length)
    | _ => ([], rest)
  match natural? 10 (whole ++ fraction) with
  | none => none
  | some digits =>
    let place : Int := -(fraction.length : Int)
    let exponent (negative : Bool) (text : List Char) : Option (Nat × Int) :=
      (if text.all Char.isDigit then natural? 10 text else none).map fun n =>
        (digits, if negative then place - n else place + n)
    match rest with
    | [] => some (digits, place)
    | e :: rest =>
      if e == 'e' || e == 'E' then
        let (negative, rest) := unsigned rest
        exponent negative rest
      else none

/-- Exponents beyond this make every number with less digits than this too large, or zero. -/
def extremeExponent : Nat := 400

/-- The floating-point number nearest to a decimal; `none` when it is too large. -/
def nearest? (digits : Nat) (exponent : Int) : Option Double :=
  let size : Int := exponent + (Nat.toDigits 10 digits).length
  if digits = 0 || size < -(extremeExponent : Int) then some ⟨false, 0⟩
  else if (extremeExponent : Int) < size then none
  else
    let x := Double.ofDecimal digits exponent
    if x.isInfinite then none else some x

/-- A floating-point number that a text writes; `none` inside stands for infinities and for what is not a
number. -/
def real? (text : String) : Option (Option Double) :=
  if [".inf", ".Inf", ".INF", "+.inf", "+.Inf", "+.INF", "-.inf", "-.Inf", "-.INF", ".nan", ".NaN",
      ".NAN"].contains text then some none
  else
    let (negative, digits) := unsigned text.toList
    match decimal? digits with
    | none => none
    | some (n, exponent) => (nearest? n exponent).map fun x => some (if negative then x.neg else x)

def ofReal (x : Option Double) : Json :=
  match x with
  | some x => .number (.real x)
  | none => .null

/-- The value of a plain scalar without a tag; `none` when it cannot be kept. -/
def plainValue? (text : String) : Option Json :=
  if text.isEmpty || isNull text then some .null
  else
    match bool? text with
    | some b => some (.bool b)
    | none =>
      let number :=
        if isPaddedNumber (unsigned text.toList).2 then .string text
        else
          match real? text with
          | some x => ofReal x
          | none => .string text
      match integer? text with
      | none => some number
      | some n =>
        match integerKind n with
        | .kept => some (.number (.integer n))
        | .unkept => none
        | .none => some number

/-- The value of a scalar; `none` when its tag does not fit it or is one of the document itself. A plain
scalar with a tag that is not known keeps its value if the tag begins with an exclamation mark; else it is
a text. -/
def scalarValue? (tag : Option Tag) (plain : Bool) (text : String) : Option Json :=
  match tag with
  | none => if plain then plainValue? text else some (.string text)
  | some tag =>
    if tag.isLocal then none
    else if tag = Tag.bool then (bool? text).map .bool
    else if tag = Tag.int then
      match integer? text with
      | some n => if integerKind n = .kept then some (.number (.integer n)) else none
      | none => none
    else if tag = Tag.float then (real? text).map ofReal
    else if tag = Tag.null then if isNull text then some .null else none
    else if tag.isMarked && plain then plainValue? text
    else some (.string text)

end SwaggerClient.Yaml
