import SwaggerClient.Number.Double

namespace SwaggerClient

/-- The number `digits * 10 ^ exponent`. -/
structure Decimal where
  digits : Nat
  exponent : Int
deriving DecidableEq, Repr

namespace Decimal

/-- Drops zeros from the end of the digits; `places` bounds how many there are. -/
def trim : Nat → Decimal → Decimal
  | 0, d => d
  | places + 1, d =>
    if d.digits % 10 = 0 then trim places ⟨d.digits / 10, d.exponent + 1⟩ else d

/-- The numbers that round to a magnitude lie between `low` and `high`, all three over one
denominator; the ends belong to them when `closed` holds. -/
structure Interval where
  low : Nat
  value : Nat
  high : Nat
  den : Nat
  closed : Bool

/-- The interval of a magnitude. Below a power of two the neighbour is only half as far. -/
def interval (code : Nat) : Interval :=
  let (m, e) := Double.parts code
  let below := if m = Nat.pow 2 52 ∧ -1074 < e then 1 else 2
  let (unit, den) := Double.quotient 1 e
  ⟨(4 * m - below) * unit, 4 * m * unit, (4 * m + 2) * unit, 4 * den, m % 2 == 0⟩

/-- `n * 10 ^ place` lies in the interval. -/
def Interval.holds (i : Interval) (n : Nat) (place : Int) : Bool :=
  let scale := Nat.pow 10 place.natAbs
  let (x, s) := if 0 ≤ place then (n * scale * i.den, 1) else (n * i.den, scale)
  if i.closed then i.low * s ≤ x && x ≤ i.high * s else i.low * s < x && x < i.high * s

/-- The least `p` with `value < 10 ^ p`. -/
def Interval.magnitude (i : Interval) : Int :=
  let start := ((i.value.log2 : Int) - i.den.log2 - 1) * 30103 / 100000 - 1
  let isBound (p : Int) : Bool :=
    if 0 ≤ p then i.value < Nat.pow 10 p.toNat * i.den else i.value * Nat.pow 10 (-p).toNat < i.den
  (([0, 1, 2, 3].map (start + ·)).find? isBound).getD (start + 4)

/-- The decimal with its last digit at `place` that lies in the interval nearest to the value. -/
def Interval.nearest? (i : Interval) (tieUp : Bool) (place : Int) : Option Decimal :=
  let scale := Nat.pow 10 place.natAbs
  let (num, den) := if 0 ≤ place then (i.value, i.den * scale) else (i.value * scale, i.den)
  let low := num / den
  let left := 2 * (num % den)
  let upward := den < left || (left == den && (tieUp || low % 2 == 1))
  match i.holds low place, i.holds (low + 1) place with
  | true, true => some ⟨if upward then low + 1 else low, place⟩
  | true, false => some ⟨low, place⟩
  | false, true => some ⟨low + 1, place⟩
  | false, false => none

/-- The shortest decimal of a magnitude other than zero: of the decimals that read back as it, those with the fewest
digits, and of these the one nearest to it. Of two decimals equally near, the upper one is taken when `tieUp` holds, else the one whose last digit is even. Seventeen digits always suffice. -/
def shortest (tieUp : Bool) (code : Nat) : Decimal :=
  let i := interval code
  let p := i.magnitude
  let found := (List.range 17).findSome? fun (n : Nat) => i.nearest? tieUp (p - (n + 1))
  trim 20 (found.getD ⟨0, 0⟩)

end Decimal

end SwaggerClient
