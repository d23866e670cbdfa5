namespace PortableC.Decimal

/-! Binary floating-point numbers of 64 bits, as exact integers, and the rounding
of a decimal numeral to the nearest of them. -/

/-- A finite number is `significand * 2 ^ exponent` with its sign.  The exponent
lies between -1074 and 971; the significand is below `2 ^ 53`, and at least
`2 ^ 52` unless the exponent is the least one. -/
inductive Binary64 where
  | finite (negative : Bool) (significand : Nat) (exponent : Int)
  | infinite (negative : Bool)
  | nan
deriving DecidableEq, Repr

def powerRatio (base : Nat) (power : Int) : Nat × Nat :=
  (base.pow power.toNat, base.pow (-power).toNat)

/-- The natural number nearest to a quotient; of two, the even one. -/
def roundHalfEven (numerator denominator : Nat) : Nat :=
  let below := numerator / denominator
  let twice := 2 * (numerator % denominator)
  if denominator < twice || (twice == denominator && below % 2 == 1) then below + 1 else below

namespace Binary64

def leastExponent : Int := -1074

def greatestExponent : Int := 971

/-- The positive quotient in units of `2 ^ exponent`. -/
def inUnits (numerator denominator : Nat) (exponent : Int) : Nat × Nat :=
  let unit := powerRatio 2 exponent
  (numerator * unit.2, denominator * unit.1)

/-- The exponent at which a positive quotient has a significand of 53 bits, or
the least exponent when that is larger. -/
def exponentFor (numerator denominator : Nat) : Int :=
  let estimate : Int := numerator.log2 - denominator.log2 - 53
  let units := inUnits numerator denominator estimate
  max leastExponent (if Nat.pow 2 53 ≤ units.1 / units.2 then estimate + 1 else estimate)

/-- The number nearest to a positive quotient; of two, the one with an even
significand. -/
def ofRatio (negative : Bool) (numerator denominator : Nat) : Binary64 :=
  let exponent := exponentFor numerator denominator
  let units := inUnits numerator denominator exponent
  let significand := roundHalfEven units.1 units.2
  let (significand, exponent) :=
    if significand < Nat.pow 2 53 then (significand, exponent) else (Nat.pow 2 52, exponent + 1)
  if greatestExponent < exponent then .infinite negative
  else .finite negative significand exponent

/-- The number nearest to `digits * 10 ^ power`.  Magnitudes far outside the
range are settled by their number of digits. -/
def ofDecimal (negative : Bool) (digits : Nat) (power : Int) : Binary64 :=
  let magnitude : Int := (Nat.toDigits 10 digits).length + power
  if digits = 0 || magnitude < -330 then .finite negative 0 leastExponent
  else if 310 < magnitude then .infinite negative
  else
    let scale := powerRatio 10 power
    ofRatio negative (digits * scale.1) scale.2

end Binary64

end PortableC.Decimal
