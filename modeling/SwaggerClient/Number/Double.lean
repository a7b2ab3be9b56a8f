namespace SwaggerClient

/-- A floating-point number: its sign, and the place of its magnitude in the ascending list of all
magnitudes, zero first. -/
structure Double where
  negative : Bool
  code : Nat
deriving DecidableEq, Repr

namespace Double

/-- The first code past the largest finite magnitude. -/
def infinityCode : Nat := 2047 * Nat.pow 2 52

def isInfinite (x : Double) : Bool :=
  infinityCode ≤ x.code

def isZero (x : Double) : Bool :=
  x.code == 0

/-- The whole number `m` and the exponent `e` with magnitude `m * 2 ^ e`. -/
def parts (code : Nat) : Nat × Int :=
  if code < Nat.pow 2 52 then (code, -1074)
  else (code % Nat.pow 2 52 + Nat.pow 2 52, (code / Nat.pow 2 52 : Nat) - 1075)

/-- `m * 2 ^ e` as a quotient. -/
def quotient (m : Nat) (e : Int) : Nat × Nat :=
  if 0 ≤ e then (m * Nat.pow 2 e.toNat, 1) else (m, Nat.pow 2 (-e).toNat)

/-- The whole number nearest to a quotient, a half going to the even neighbour. -/
def roundHalfEven (num den : Nat) : Nat :=
  let low := num / den
  let left := 2 * (num % den)
  if left < den || (left == den && low % 2 == 0) then low else low + 1

/-- The code of the magnitude nearest to a quotient. -/
def nearestCode (num den : Nat) : Nat :=
  if num = 0 then 0
  else
    let scaled (e : Int) : Nat × Nat :=
      if 0 ≤ e then (num, den * Nat.pow 2 e.toNat) else (num * Nat.pow 2 (-e).toNat, den)
    let guess : Int := max ((num.log2 : Int) - den.log2 - 53) (-1074)
    let e := if Nat.pow 2 53 ≤ (scaled guess).1 / (scaled guess).2 then guess + 1 else guess
    roundHalfEven (scaled e).1 (scaled e).2 + (e + 1074).toNat * Nat.pow 2 52

def ofNat (n : Nat) : Double :=
  ⟨false, nearestCode n 1⟩

def ofInt (n : Int) : Double :=
  ⟨decide (n < 0), nearestCode n.natAbs 1⟩

/-- The floating-point number nearest to `digits * 10 ^ exponent`. -/
def ofDecimal (digits : Nat) (exponent : Int) : Double :=
  if 0 ≤ exponent then ⟨false, nearestCode (digits * Nat.pow 10 exponent.toNat) 1⟩
  else ⟨false, nearestCode digits (Nat.pow 10 (-exponent).toNat)⟩

/-- The exact product, rounded once. -/
def mul (x y : Double) : Double :=
  let (m, e) := parts x.code
  let (n, f) := parts y.code
  let (num, den) := quotient (m * n) (e + f)
  ⟨x.negative != y.negative, nearestCode num den⟩

/-- The divisor is not zero. -/
def div (x y : Double) : Double :=
  let (m, e) := parts x.code
  let (n, f) := parts y.code
  let (num, den) := quotient m (e - f)
  ⟨x.negative != y.negative, nearestCode num (den * n)⟩

def neg (x : Double) : Double :=
  ⟨!x.negative, x.code⟩

end Double

end SwaggerClient
