import PortableC.Decimal.Binary64
import PortableC.Toml.Lexeme

namespace PortableC.Toml

/-! Integers and floating-point numbers. -/

namespace Number

def sign : List Char → Bool × List Char
  | '+' :: rest => (false, rest)
  | '-' :: rest => (true, rest)
  | text => (false, text)

def wholeDigits? : Reader (List Char)
  | '0' :: rest => some (['0'], rest)
  | text => digits? Char.isDigit text

def decimalValue (digits : List Char) : Nat :=
  Nat.ofDigitChars 10 digits 0

def isDigitIn (base : Nat) (char : Char) : Bool :=
  char.isDigit && char.toNat - '0'.toNat < base ||
    base == 16 && (('a' ≤ char && char ≤ 'f') || ('A' ≤ char && char ≤ 'F'))

def digitValue (char : Char) : Nat :=
  if char.isDigit then char.toNat - '0'.toNat else char.toLower.toNat - 'a'.toNat + 10

/-- Integers have 64 bits. -/
def inRange? (value : Int) : Option Int :=
  if -Int.pow 2 63 ≤ value ∧ value < Int.pow 2 63 then some value else none

def based? (base : Nat) (text : List Char) : Option (Int × List Char) := do
  let (digits, rest) ← digits? (isDigitIn base) text
  let value := digits.foldl (fun value digit => base * value + digitValue digit) 0
  let value ← inRange? value
  some (value, rest)

def decimal? (text : List Char) : Option (Int × List Char) := do
  let (negative, text) := sign text
  let (digits, rest) ← wholeDigits? text
  let magnitude : Int := decimalValue digits
  let value ← inRange? (if negative then -magnitude else magnitude)
  some (value, rest)

def integer? : Reader Int
  | '0' :: 'x' :: text => based? 16 text
  | '0' :: 'o' :: text => based? 8 text
  | '0' :: 'b' :: text => based? 2 text
  | text => decimal? text

/-- The digits after a decimal point; none if there is no point. -/
def fraction? : Reader (List Char)
  | '.' :: rest => digits? Char.isDigit rest
  | text => some ([], text)

def exponent? (text : List Char) : Option (Int × List Char) :=
  match text with
  | 'e' :: rest | 'E' :: rest => do
      let (negative, rest) := sign rest
      let (digits, rest) ← digits? Char.isDigit rest
      let magnitude : Int := decimalValue digits
      some (if negative then -magnitude else magnitude, rest)
  | _ => some (0, text)

/-- Whether what follows the whole digits makes the numeral a floating-point one. -/
def continuesFloat : List Char → Bool
  | '.' :: _ | 'e' :: _ | 'E' :: _ => true
  | _ => false

/-- A numeral with a fraction, an exponent or both.  One above the range is
refused, one below it is minus infinity. -/
def numeral? (text : List Char) : Option (Decimal.Binary64 × List Char) := do
  let (negative, text) := sign text
  let (whole, text) ← wholeDigits? text
  if !continuesFloat text then none
  else
    let (places, text) ← fraction? text
    let (power, rest) ← exponent? text
    let value :=
      Decimal.Binary64.ofDecimal negative (decimalValue (whole ++ places)) (power - places.length)
    if value = .infinite false then none else some (value, rest)

def named? (text : List Char) : Option (Decimal.Binary64 × List Char) :=
  let (negative, text) := sign text
  match text with
  | 'i' :: 'n' :: 'f' :: rest => some (.infinite negative, rest)
  | 'n' :: 'a' :: 'n' :: rest => some (.nan, rest)
  | _ => none

def float? (text : List Char) : Option (Decimal.Binary64 × List Char) :=
  numeral? text <|> named? text

end Number

end PortableC.Toml
