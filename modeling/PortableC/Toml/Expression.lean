import PortableC.Toml.Lexeme
import PortableC.Toml.Moment
import PortableC.Toml.Number
import PortableC.Toml.Quotation
import PortableC.Toml.Table

namespace PortableC.Toml

/-! Expressions, the lines of a document: keys with their values, and headers. -/

namespace Key

def isBareChar (char : Char) : Bool :=
  char.isAlphanum || char == '-' || char == '_'

def part? : Reader String
  | '"' :: rest => Quotation.oneLine? ('"' :: rest)
  | '\'' :: rest => Quotation.oneLine? ('\'' :: rest)
  | text =>
      let word := text.takeWhile isBareChar
      if word.isEmpty then none else some (String.ofList word, text.dropWhile isBareChar)

/-- Parts joined by points, with spaces around each, of which there are `limit`
many at most. -/
def parts? : Nat → Reader (List String)
  | 0, _ => none
  | limit + 1, text => do
      let (part, rest) ← part? (skipSpaces text)
      match skipSpaces rest with
      | '.' :: rest => do
          let (parts, rest) ← parts? limit rest
          some (part :: parts, rest)
      | rest => some ([part], rest)

/-- How many parts a key may have, and how deep values may be nested. -/
def limit : Nat := 79

def read? : Reader (List String) :=
  parts? limit

end Key

namespace Value

/-- The items of an array after its bracket.  Newlines and comments may stand
anywhere between them, and a comma after the last. -/
def items? (item : Reader Value) : Nat → Reader (List Value)
  | 0, _ => none
  | fuel + 1, text =>
      match skipBlankLines text with
      | ']' :: rest => some ([], rest)
      | text => do
          let (first, rest) ← item text
          match skipBlankLines rest with
          | ']' :: rest => some ([first], rest)
          | ',' :: rest => do
              let (items, rest) ← items? item fuel rest
              some (first :: items, rest)
          | _ => none

def pair? (value : Reader Value) (text : List Char) :
    Option ((List String × Value) × List Char) := do
  let (path, rest) ← Key.read? text
  let rest ← word? ['='] rest
  let (found, rest) ← value (skipSpaces rest)
  some ((path, found), skipSpaces rest)

/-- The pairs of an inline table after its brace; at least one. -/
def pairs? (value : Reader Value) : Nat → Reader (List (List String × Value))
  | 0, _ => none
  | fuel + 1, text => do
      let (first, rest) ← pair? value text
      match rest with
      | '\x7d' :: rest => some ([first], rest)
      | ',' :: rest => do
          let (pairs, rest) ← pairs? value fuel rest
          some (first :: pairs, rest)
      | _ => none

/-- An inline table after its brace, with its dotted keys unfolded. -/
def inlineTable? (value : Reader Value) (text : List Char) : Option (Value × List Char) :=
  match skipSpaces text with
  | '\x7d' :: rest => some (.table .inline [], rest)
  | text => do
      let (pairs, rest) ← pairs? value text.length text
      let entries ← pairs.foldlM (fun entries pair => Entries.addPair entries pair.1 pair.2) []
      some (.table .inline entries, rest)

def numeric? (text : List Char) : Option (Value × List Char) :=
  ((Moment.read? text).map fun (written, rest) => (.moment written, rest)) <|>
    ((Number.float? text).map fun (value, rest) => (.float value, rest)) <|>
    ((Number.integer? text).map fun (value, rest) => (.integer value, rest))

def scalar? (text : List Char) : Option (Value × List Char) :=
  match text with
  | '"' :: _ | '\'' :: _ =>
      (Quotation.read? text).map fun (text, rest) => (.string text, rest)
  | 't' :: 'r' :: 'u' :: 'e' :: rest => some (.boolean true, rest)
  | 'f' :: 'a' :: 'l' :: 's' :: 'e' :: rest => some (.boolean false, rest)
  | _ => numeric? text

/-- A value that nests at most `depth` arrays and inline tables. -/
def read? : Nat → Reader Value
  | 0, text => scalar? text
  | depth + 1, text =>
      match text with
      | '[' :: rest =>
          (items? (read? depth) (rest.length + 1) rest).map fun (items, rest) =>
            (.array items, rest)
      | '\x7b' :: rest => inlineTable? (read? depth) rest
      | _ => scalar? text

end Value

inductive Expression where
  /-- A value under a key, which is dotted when it has several parts. -/
  | pair (path : List String) (value : Value)
  | header (path : List String)
  /-- A header in double brackets, which opens one more table of a sequence. -/
  | elementHeader (path : List String)

namespace Expression

def pair? (text : List Char) : Option (Expression × List Char) := do
  let ((path, value), rest) ← Value.pair? (Value.read? Key.limit) text
  let rest ← lineEnd? rest
  some (.pair path value, rest)

def header? (text : List Char) : Option (Expression × List Char) := do
  let (path, rest) ← Key.read? text
  let rest ← word? [']'] rest
  let rest ← lineEnd? rest
  some (.header path, rest)

def elementHeader? (text : List Char) : Option (Expression × List Char) := do
  let (path, rest) ← Key.read? text
  let rest ← word? [']', ']'] rest
  let rest ← lineEnd? rest
  some (.elementHeader path, rest)

def read? : List Char → Option (Expression × List Char)
  | '[' :: '[' :: rest => elementHeader? rest
  | '[' :: rest => header? rest
  | text => pair? text

/-- All expressions of a text, in at most `fuel` lines. -/
def lines? : Nat → List Char → Option (List Expression)
  | 0, text => if text.isEmpty then some [] else none
  | fuel + 1, text =>
      match lineEnd? text with
      | some [] => some []
      | some rest => lines? fuel rest
      | none => do
          let (expression, rest) ← read? (skipSpaces text)
          let expressions ← lines? fuel rest
          some (expression :: expressions)

/-- The expressions of a document, which may start with a byte order mark. -/
def all? (text : List Char) : Option (List Expression) :=
  let text := match text with
    | '\ufeff' :: rest => rest
    | text => text
  lines? text.length text

end Expression

end PortableC.Toml
