import AccessFeed.Json

/-! Numbers of the IEEE 754 format with 64 bits, held exactly: a finite one is a significand times
a power of two. A decimal is read as the nearest such number, an exact tie going to the even
significand. -/
namespace AccessFeed

/-- A binary number with a significand of at most 53 bits. -/
inductive Binary64 where
  | nan
  | infinite (negative : Bool)
  /-- The number `significand * 2 ^ exponent`, with its sign. -/
  | finite (negative : Bool) (significand : Nat) (exponent : Int)
  deriving DecidableEq, Inhabited

namespace Binary64

/-- A power of a base, with everything below the zeroth power counting as one. -/
def power (base : Nat) (exponent : Int) : Nat := base.pow exponent.toNat

/-- The nearest natural number to a quotient; an exact half goes to the even neighbour. -/
def nearestEven (numerator denominator : Nat) : Nat :=
  let floor := numerator / denominator
  let twice := 2 * (numerator % denominator)
  if twice < denominator then floor
  else if denominator < twice then floor + 1
  else if floor % 2 = 0 then floor else floor + 1

def leastExponent : Int := -1074

def greatestExponent : Int := 971

/-- The exponent at which a positive quotient has a significand of 53 bits, or the smallest
exponent if that one is below it. -/
def gridExponent (numerator denominator : Nat) : Int :=
  let guess : Int := (numerator.log2 : Int) - denominator.log2 - 52
  let reached := Nat.pow 2 52 * power 2 guess * denominator ≤ numerator * power 2 (-guess)
  max (if reached then guess else guess - 1) leastExponent

/-- The number nearest to a positive quotient. -/
def ofQuotient (negative : Bool) (numerator denominator : Nat) : Binary64 :=
  let exponent := gridExponent numerator denominator
  let rounded := nearestEven (numerator * power 2 (-exponent)) (denominator * power 2 exponent)
  let (significand, exponent) :=
    if rounded = Nat.pow 2 53 then (Nat.pow 2 52, exponent + 1) else (rounded, exponent)
  if greatestExponent < exponent then .infinite negative else .finite negative significand exponent

def zero (negative : Bool) : Binary64 := .finite negative 0 leastExponent

/-- The number nearest to a decimal. Decimals far outside the range are decided by their size
alone. -/
def ofDecimal (value : Decimal) : Binary64 :=
  if value.digits = 0 then zero value.negative
  else
    let size := value.exponent + (Nat.toDigits 10 value.digits).length
    if 310 < size then .infinite value.negative
    else if size < -330 then zero value.negative
    else ofQuotient value.negative (value.digits * power 10 value.exponent)
      (power 10 (-value.exponent))

/-- A number times a power of ten, the power and the result both rounded to the nearest. -/
def scale (value : Binary64) (places : Int) : Binary64 :=
  match value, ofDecimal ⟨false, 1, places.natAbs⟩ with
  | .finite negative significand exponent, .finite _ factor shift =>
    if significand = 0 then zero negative
    else if 0 ≤ places then
      ofQuotient negative (significand * factor * power 2 (exponent + shift))
        (power 2 (-(exponent + shift)))
    else
      ofQuotient negative (significand * power 2 (exponent - shift))
        (factor * power 2 (shift - exponent))
  | .finite negative significand _, _ =>
    if significand = 0 || places < 0 then zero negative else .infinite negative
  | value, _ => value

/-- The largest power of ten that a single step scales by. -/
def greatestPlaces : Nat := 308

/-- Divides by a power of ten in steps of at most the largest power. The fuel bounds the steps. -/
def scaleDown : Nat → Binary64 → Nat → Binary64
  | 0, value, _ => value
  | fuel + 1, value, places =>
    if places ≤ greatestPlaces then value.scale (-places)
    else scaleDown fuel (value.scale (-greatestPlaces)) (places - greatestPlaces)

/-- The leading digits of a number that 64 bits hold, and the count of the digits after them. The
fuel bounds that count. -/
def leadingDigits : Nat → Nat → Nat × Nat
  | 0, digits => (digits, 0)
  | fuel + 1, digits =>
    if digits < Nat.pow 2 64 then (digits, 0)
    else
      let (leading, dropped) := leadingDigits fuel (digits / 10)
      (leading, dropped + 1)

/-- The number that a decimal is read as in a single pass: only the leading digits count that 64
bits hold, and they are rounded before they are scaled. It is the nearest one when the digits and
the power of ten are exact, and else very close to it. Three steps of division take every number of
64 bits to zero. -/
def ofLeadingDigits (value : Decimal) : Binary64 :=
  let (leading, dropped) := leadingDigits (Nat.toDigits 10 value.digits).length value.digits
  let rounded := ofDecimal ⟨value.negative, leading, 0⟩
  let exponent := value.exponent + dropped
  if 0 ≤ exponent then rounded.scale exponent else scaleDown 3 rounded exponent.natAbs

/-- A number different from zero; what is not a number counts as different. -/
def isNonzero : Binary64 → Bool
  | .finite _ significand _ => significand ≠ 0
  | _ => true

/-- The largest size of 64 bits. -/
def greatestSize : Nat := Nat.pow 2 64 - 1

/-- The nearest size of 64 bits: a half goes away from zero, what is outside the range goes to its
ends, and what is not a number counts as zero. -/
def toSize : Binary64 → UInt64
  | .nan => 0
  | .infinite true => 0
  | .infinite false => greatestSize.toUInt64
  | .finite true _ _ => 0
  | .finite false significand exponent =>
    let whole := (2 * significand * power 2 exponent + power 2 (-exponent))
      / (2 * power 2 (-exponent))
    (min whole greatestSize).toUInt64

end Binary64

end AccessFeed
