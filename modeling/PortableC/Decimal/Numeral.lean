namespace PortableC.Decimal

/-! Unsigned decimal numerals as users type them. -/

def dropPlus : List Char → List Char
  | '+' :: digits => digits
  | digits => digits

/-- Reads one or more ASCII digits after at most one plus sign, if their value is
below `bound`.  Leading zeros are harmless. -/
def readBelow? (bound : Nat) (text : List Char) : Option Nat :=
  let digits := dropPlus text
  if digits.isEmpty || !digits.all Char.isDigit then none
  else
    let value := Nat.ofDigitChars 10 digits 0
    if value < bound then some value else none

end PortableC.Decimal
