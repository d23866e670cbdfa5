import PortableC.Toml.Lexeme

namespace PortableC.Toml

/-! Strings: basic ones with escapes, literal ones without, each on one line or
over several. -/

namespace Quotation

def hexValue? (char : Char) : Option Nat :=
  if char.isDigit then some (char.toNat - '0'.toNat)
  else if 'a' ≤ char ∧ char ≤ 'f' then some (char.toNat - 'a'.toNat + 10)
  else if 'A' ≤ char ∧ char ≤ 'F' then some (char.toNat - 'A'.toNat + 10)
  else none

/-- The character whose code point the hexadecimal digits give.  Surrogates and
numbers past the last code point stand for none. -/
def codePoint? (digits : List Char) : Option Char := do
  let values ← digits.mapM hexValue?
  let code := values.foldl (fun code value => 16 * code + value) 0
  if code.isValidChar then some (Char.ofNat code) else none

def escape? : Char → Option Char
  | 'b' => some '\x08'
  | 't' => some '\t'
  | 'n' => some '\n'
  | 'f' => some '\x0c'
  | 'r' => some '\r'
  | '"' => some '"'
  | '\\' => some '\\'
  | _ => none

def basicBody : Reader (List Char)
  | '"' :: rest => some ([], rest)
  | '\\' :: 'u' :: a :: b :: c :: d :: rest => do
      let char ← codePoint? [a, b, c, d]
      prepend char (basicBody rest)
  | '\\' :: 'U' :: a :: b :: c :: d :: e :: f :: g :: h :: rest => do
      let char ← codePoint? [a, b, c, d, e, f, g, h]
      prepend char (basicBody rest)
  | '\\' :: letter :: rest => do
      let char ← escape? letter
      prepend char (basicBody rest)
  | char :: rest =>
      if isPrintable char && char != '\\' then prepend char (basicBody rest) else none
  | [] => none

def literalBody : Reader (List Char)
  | '\'' :: rest => some ([], rest)
  | char :: rest => if isPrintable char then prepend char (literalBody rest) else none
  | [] => none

def endsLine (text : List Char) : Bool :=
  (newline? (skipSpaces text)).isSome

/-- The rest of a basic string over several lines.  A backslash at the end of a
line drops all spaces and newlines after it, which `skipping` says is going on.
Up to two quotes may stand before the three that close the string. -/
def basicLines (skipping : Bool) : Reader (List Char)
  | '"' :: '"' :: '"' :: '"' :: '"' :: rest => some (['"', '"'], rest)
  | '"' :: '"' :: '"' :: '"' :: rest => some (['"'], rest)
  | '"' :: '"' :: '"' :: rest => some ([], rest)
  | '\\' :: 'u' :: a :: b :: c :: d :: rest => do
      let char ← codePoint? [a, b, c, d]
      prepend char (basicLines false rest)
  | '\\' :: 'U' :: a :: b :: c :: d :: e :: f :: g :: h :: rest => do
      let char ← codePoint? [a, b, c, d, e, f, g, h]
      prepend char (basicLines false rest)
  | '\\' :: letter :: rest =>
      if endsLine (letter :: rest) then basicLines true (letter :: rest)
      else do
        let char ← escape? letter
        prepend char (basicLines false rest)
  | '\r' :: '\n' :: rest =>
      if skipping then basicLines true rest else prepend '\n' (basicLines false rest)
  | '\n' :: rest =>
      if skipping then basicLines true rest else prepend '\n' (basicLines false rest)
  | char :: rest =>
      if skipping && isSpace char then basicLines true rest
      else if isPrintable char && char != '\\' then prepend char (basicLines false rest)
      else none
  | [] => none

def literalLines : Reader (List Char)
  | '\'' :: '\'' :: '\'' :: '\'' :: '\'' :: rest => some (['\'', '\''], rest)
  | '\'' :: '\'' :: '\'' :: '\'' :: rest => some (['\''], rest)
  | '\'' :: '\'' :: '\'' :: rest => some ([], rest)
  | '\r' :: '\n' :: rest => prepend '\n' (literalLines rest)
  | '\n' :: rest => prepend '\n' (literalLines rest)
  | char :: rest => if isPrintable char then prepend char (literalLines rest) else none
  | [] => none

/-- A newline right after the opening quotes is not part of the string. -/
def skipFirstNewline (text : List Char) : List Char :=
  (newline? text).getD text

def oneLine? : Reader String
  | '"' :: rest => (basicBody rest).map fun (text, rest) => (String.ofList text, rest)
  | '\'' :: rest => (literalBody rest).map fun (text, rest) => (String.ofList text, rest)
  | _ => none

def read? : Reader String
  | '"' :: '"' :: '"' :: rest =>
      (basicLines false (skipFirstNewline rest)).map fun (text, rest) =>
        (String.ofList text, rest)
  | '\'' :: '\'' :: '\'' :: rest =>
      (literalLines (skipFirstNewline rest)).map fun (text, rest) => (String.ofList text, rest)
  | text => oneLine? text

end Quotation

end PortableC.Toml
