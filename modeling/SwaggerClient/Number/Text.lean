import SwaggerClient.Number.Shortest

namespace SwaggerClient

/-- How a floating-point number is written. -/
structure NumberForm where
  /-- The number is written without an exponent when this holds for the place of its point, counted from
  its first digit. -/
  plain : Int → Bool
  /-- A whole number written without an exponent ends in `.0`. -/
  markWhole : Bool
  /-- Of two shortest decimals equally near, the upper one. -/
  tieUp : Bool

namespace NumberForm

/-- In JSON text and in messages about it: an exponent below 0.00001 and from 10 ^ 16 on. -/
def json : NumberForm := ⟨fun point => -5 < point && point ≤ 16, true, false⟩

/-- As the text of an enumeration literal: never an exponent, and no point in a whole number. -/
def literal : NumberForm := ⟨fun _ => true, false, true⟩

def zeros (n : Nat) : List Char :=
  List.replicate n '0'

/-- The digits with the point after the first `point` of them. -/
def plainText (form : NumberForm) (digits : List Char) (point : Int) : List Char :=
  if point ≤ 0 then '0' :: '.' :: zeros (-point).toNat ++ digits
  else if digits.length ≤ point.toNat then
    digits ++ zeros (point.toNat - digits.length) ++ (if form.markWhole then ['.', '0'] else [])
  else digits.take point.toNat ++ '.' :: digits.drop point.toNat

/-- The digits with the point after the first one, and the exponent that sets it right. -/
def exponentText (digits : List Char) (exponent : Int) : List Char :=
  let tail := digits.drop 1
  digits.take 1 ++ (if tail.isEmpty then [] else '.' :: tail) ++
    'e' :: (if exponent < 0 then '-' else '+') :: (Nat.toDigits 10 exponent.natAbs)

def text (form : NumberForm) (x : Double) : String :=
  let sign := if x.negative then ['-'] else []
  if x.isZero then String.ofList (sign ++ '0' :: (if form.markWhole then ['.', '0'] else []))
  else
    let d := Decimal.shortest form.tieUp x.code
    let digits := Nat.toDigits 10 d.digits
    let point := d.exponent + digits.length
    String.ofList (sign ++
      if form.plain point then form.plainText digits point else exponentText digits (point - 1))

end NumberForm

end SwaggerClient
