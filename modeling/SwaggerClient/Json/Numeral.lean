import SwaggerClient.Json.Basic

namespace SwaggerClient.Json

/-- A JSON number as it is written: sign, digits before and after the point, exponent. -/
structure Numeral where
  negative : Bool
  whole : List Nat
  fraction : List Nat
  exponent : Int
  /-- There is neither a point nor an exponent. -/
  isWhole : Bool

namespace Numeral

/-- Appends digits to a number as long as the result fits 64 bits, and counts the digits taken. -/
def appendDigits (n : Nat) : List Nat → Nat × Nat
  | [] => (n, 0)
  | d :: rest =>
    if 10 * n + d < Nat.pow 2 64 then
      let (m, taken) := appendDigits (10 * n + d) rest
      (m, taken + 1)
    else (n, 0)

/-- The largest power of ten that one multiplication or division uses. -/
def maxPower : Nat := 308

/-- Divides a magnitude of at most 64 bits by a power of ten, in steps of at most `maxPower`. After
two whole steps nothing is left of it. -/
def divideByPower (x : Double) (power : Nat) : Double :=
  if power ≤ maxPower then x.div (Double.ofDecimal 1 power)
  else if power ≤ 2 * maxPower then
    (x.div (Double.ofDecimal 1 maxPower)).div (Double.ofDecimal 1 (power - maxPower : Nat))
  else ⟨x.negative, 0⟩

/-- Multiplies by a power of ten; `none` when the result is too large. -/
def multiplyByPower? (x : Double) (power : Nat) : Option Double :=
  if x.isZero then some x
  else if power ≤ maxPower then
    let y := x.mul (Double.ofDecimal 1 power)
    if y.isInfinite then none else some y
  else none

/-- The floating-point value; `none` when it is too large. It is rounded twice: the leading digits that fit 64 bits
are rounded to a floating-point number, which is then multiplied or divided by the power of ten that is left. -/
def real? (n : Numeral) : Option Double := do
  let (whole, wholeTaken) := appendDigits 0 n.whole
  let (digits, fractionTaken) := appendDigits whole n.fraction
  let power := n.exponent + (n.whole.length - wholeTaken : Nat) - fractionTaken
  let magnitude := Double.ofNat digits
  let value ←
    if 0 ≤ power then multiplyByPower? magnitude power.toNat
    else some (divideByPower magnitude (-power).toNat)
  return if n.negative then value.neg else value

def wholeValue (n : Numeral) : Nat :=
  n.whole.foldl (fun m d => 10 * m + d) 0

/-- The value of a written number; `none` when it is too large. The integer `-0` is a negative
floating-point zero. -/
def value? (n : Numeral) : Option Number :=
  let m := n.wholeValue
  if n.isWhole && !n.negative && m < Nat.pow 2 64 then some (.integer m)
  else if n.isWhole && n.negative && 0 < m && m ≤ Nat.pow 2 63 then some (.integer (-m))
  else n.real?.map .real

end Numeral

end SwaggerClient.Json
