import PortableC.Decimal.Binary64

namespace PortableC.Decimal

/-! The shortest decimal text that reads back as a given binary number.

A number stands for the interval of reals that round to it.  Among the decimal
grids with 1, 2, … 17 digits the first that meets the interval is taken, and on
it the point nearest to the number.  The text is always positional.
-/

/-- The reals that round to a positive number, and the number itself, all in
units of a quarter of the last place.  The ends belong to it when the
significand is even. -/
structure Rounding where
  low : Nat
  value : Nat
  high : Nat
  closed : Bool

namespace Rounding

def of (significand : Nat) (exponent : Int) : Rounding :=
  let narrow := significand == Nat.pow 2 52 && decide (Binary64.leastExponent < exponent)
  { low := 4 * significand - (if narrow then 1 else 2)
    value := 4 * significand
    high := 4 * significand + 2
    closed := significand % 2 == 0 }

/-- Whether a point lies in the interval, both measured in a finer unit that
`scale` of them make one of the interval's units. -/
def holds (rounding : Rounding) (scale point : Nat) : Bool :=
  if rounding.closed then rounding.low * scale ≤ point && point ≤ rounding.high * scale
  else rounding.low * scale < point && point < rounding.high * scale

/-- The nearest multiple of `10 ^ power` in the interval, if there is one; of two
equally near, the larger. -/
def pointOn (rounding : Rounding) (exponent power : Int) : Option Nat :=
  let unit := powerRatio 2 (exponent - 2)
  let grid := powerRatio 10 power
  let scale := unit.1 * grid.2
  let step := grid.1 * unit.2
  let value := rounding.value * scale
  let below := value / step
  let lower := below * step
  let upper := (below + 1) * step
  match rounding.holds scale lower, rounding.holds scale upper with
  | true, true => some (if value - lower < upper - value then below else below + 1)
  | true, false => some below
  | false, true => some (below + 1)
  | false, false => none

end Rounding

/-- How many digits stand before the decimal point of a positive number; zero or
less when it is below one tenth. -/
def leadingPlace (significand : Nat) (exponent : Int) : Int :=
  let unit := powerRatio 2 exponent
  let numerator := significand * unit.1
  if unit.2 ≤ numerator then (Nat.toDigits 10 (numerator / unit.2)).length
  else 1 - (Nat.toDigits 10 (unit.2 / numerator)).length

/-- Digits and the power of ten they are to be multiplied with. -/
def shortest (significand : Nat) (exponent : Int) : Nat × Int :=
  let rounding := Rounding.of significand exponent
  let place := leadingPlace significand exponent
  let found := (List.range 17).findSome? fun extra =>
    let power := place - (extra + 1 : Nat)
    (rounding.pointOn exponent power).map fun digits => (digits, power)
  found.getD (significand, exponent)

/-- Positional notation of `digits * 10 ^ power`, with a digit on both sides of
the decimal point and no zero at the end but that one. -/
def positional (digits : Nat) (power : Int) : List Char :=
  let written := Nat.toDigits 10 digits
  let fraction := (-power).toNat
  let padded := List.replicate (fraction + 1 - written.length) '0' ++ written ++
    List.replicate power.toNat '0'
  let whole := padded.take (padded.length - fraction)
  let places := ((padded.drop (padded.length - fraction)).reverse.dropWhile (· == '0')).reverse
  whole ++ '.' :: (if places.isEmpty then ['0'] else places)

namespace Binary64

def signText (negative : Bool) : List Char :=
  if negative then ['-'] else []

def text : Binary64 → String
  | .nan => "NaN"
  | .infinite negative => String.ofList (signText negative ++ ['i', 'n', 'f'])
  | .finite negative significand exponent =>
      let (digits, power) := if significand = 0 then (0, 0) else shortest significand exponent
      String.ofList (signText negative ++ positional digits power)

end Binary64

end PortableC.Decimal
