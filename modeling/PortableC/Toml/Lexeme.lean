namespace PortableC.Toml

/-! The smallest parts of a TOML document.  A reader takes the text that is left
and gives back what it has read with the text after it, or nothing if the text
does not start with what it looks for. -/

abbrev Reader (α : Type) := List Char → Option (α × List Char)

def prepend (char : Char) : Option (List Char × List Char) → Option (List Char × List Char)
  | some (text, rest) => some (char :: text, rest)
  | none => none

def isSpace (char : Char) : Bool :=
  char == ' ' || char == '\t'

def skipSpaces (text : List Char) : List Char :=
  text.dropWhile isSpace

/-- Characters that comments and strings may hold: tabs, and everything from the
space on but the delete character. -/
def isPrintable (char : Char) : Bool :=
  char == '\t' || (0x20 ≤ char.toNat && char.toNat != 0x7F)

/-- The text after a line feed, with or without a carriage return before it. -/
def newline? : List Char → Option (List Char)
  | '\n' :: rest => some rest
  | '\r' :: '\n' :: rest => some rest
  | _ => none

/-- The text after a comment, if there is one; the line's end stays. -/
def skipComment : List Char → List Char
  | '#' :: rest => rest.dropWhile isPrintable
  | text => text

/-- The end of a line that may only hold a comment yet. -/
def lineEnd? (text : List Char) : Option (List Char) :=
  match skipComment (skipSpaces text) with
  | [] => some []
  | rest => newline? rest

/-- Spaces, newlines and comments, of which `fuel` many at most. -/
def skipGaps : Nat → List Char → List Char
  | 0, text => text
  | fuel + 1, text =>
      match newline? (skipComment (skipSpaces text)) with
      | some rest => skipGaps fuel rest
      | none => skipSpaces text

/-- The text between two items of a list: any spaces, newlines and comments. -/
def skipBlankLines (text : List Char) : List Char :=
  skipGaps text.length text

/-- One or more digits, where single underscores may stand between two of them.
The underscores are left out. -/
def moreDigits (isDigit : Char → Bool) : List Char → Option (List Char × List Char)
  | '_' :: char :: rest =>
      if isDigit char then prepend char (moreDigits isDigit rest) else none
  | ['_'] => none
  | char :: rest =>
      if isDigit char then prepend char (moreDigits isDigit rest) else some ([], char :: rest)
  | [] => some ([], [])

def digits? (isDigit : Char → Bool) : Reader (List Char)
  | [] => none
  | char :: rest =>
      if isDigit char then prepend char (moreDigits isDigit rest) else none

def word? : List Char → List Char → Option (List Char)
  | [], text => some text
  | char :: word, first :: rest => if char = first then word? word rest else none
  | _ :: _, [] => none

end PortableC.Toml
