import PortableC.Toml.Lexeme

namespace PortableC.Toml

/-! Dates and times of day, alone or together. -/

namespace Moment

def fixedDigits? : Nat → List Char → Option (List Char × List Char)
  | 0, text => some ([], text)
  | count + 1, char :: rest =>
      if char.isDigit then prepend char (fixedDigits? count rest) else none
  | _ + 1, [] => none

/-- The text after a number of `count` digits that lies within the bounds, and
the number. -/
def field? (count least greatest : Nat) (text : List Char) : Option (Nat × List Char) := do
  let (digits, rest) ← fixedDigits? count text
  let value := Nat.ofDigitChars 10 digits 0
  if least ≤ value ∧ value ≤ greatest then some (value, rest) else none

def isLeapYear (year : Nat) : Bool :=
  year % 4 == 0 && (year % 100 != 0 || year % 400 == 0)

def daysInMonth (year month : Nat) : Nat :=
  if month = 2 then if isLeapYear year then 29 else 28
  else if month = 4 ∨ month = 6 ∨ month = 9 ∨ month = 11 then 30
  else 31

def date? (text : List Char) : Option (List Char) := do
  let (year, text) ← field? 4 0 9999 text
  let text ← word? ['-'] text
  let (month, text) ← field? 2 1 12 text
  let text ← word? ['-'] text
  let (_, text) ← field? 2 1 (daysInMonth year month) text
  some text

def skipFraction : List Char → List Char
  | '.' :: char :: rest => if char.isDigit then rest.dropWhile Char.isDigit else '.' :: char :: rest
  | text => text

/-- A time of day to the second, which may be a leap second. -/
def time? (text : List Char) : Option (List Char) := do
  let (_, text) ← field? 2 0 23 text
  let text ← word? [':'] text
  let (_, text) ← field? 2 0 59 text
  let text ← word? [':'] text
  let (_, text) ← field? 2 0 60 text
  some (skipFraction text)

/-- The difference from universal time, if it is given. -/
def offset? : List Char → Option (List Char)
  | 'Z' :: rest | 'z' :: rest => some rest
  | '+' :: rest | '-' :: rest => do
      let (_, rest) ← field? 2 0 23 rest
      let rest ← word? [':'] rest
      let (_, rest) ← field? 2 0 59 rest
      some rest
  | text => some text

/-- The time of day after a date, with its offset; the text as it is if there is
none. -/
def dayTime? : List Char → Option (List Char)
  | 'T' :: rest | 't' :: rest | ' ' :: rest => (time? rest).bind offset?
  | _ => none

def skip? (text : List Char) : Option (List Char) :=
  match date? text with
  | some rest => some ((dayTime? rest).getD rest)
  | none => time? text

def read? (text : List Char) : Option (String × List Char) :=
  (skip? text).map fun rest => (String.ofList (text.take (text.length - rest.length)), rest)

end Moment

end PortableC.Toml
