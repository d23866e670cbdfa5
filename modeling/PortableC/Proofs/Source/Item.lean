import PortableC.Proofs.Source.Token

namespace PortableC.Source

/-! The declarations of a source text, as far as names go.

Each line outside of function bodies that is neither empty nor a directive is read
as one declaration.  What counts is the name that it declares and the names that it
is made of.
-/

structure Item where
  /-- `typedef`, `extern` or `static`, if one of them comes first. -/
  storage : String
  name : String
  /-- The types of the declaration from left to right, and the names that the size
  of an array or an initial value is written with. -/
  mentions : List String
deriving DecidableEq, Repr

/-- A type, the name of that type that comes next, and what follows. -/
structure TypedName where
  type : String
  name : Option String
  rest : List Token
deriving DecidableEq, Repr

def Token.word? : Token → Option String
  | .word text => some text
  | _ => none

def splitWords : List Token → List String × List Token
  | .word text :: rest => (text :: (splitWords rest).1, (splitWords rest).2)
  | rest => ([], rest)

def dropStars : List Token → List Token
  | .sign '*' :: rest => dropStars rest
  | rest => rest

/-- Without stars, the last of several words is the name. -/
def TypedName.ofWords (words : List String) (rest : List Token) : TypedName :=
  match words.getLast? with
  | some name =>
      if words.length = 1 then ⟨name, none, rest⟩
      else ⟨" ".intercalate words.dropLast, some name, rest⟩
  | none => ⟨"", none, rest⟩

def TypedName.read (tokens : List Token) : TypedName :=
  let (words, rest) := splitWords tokens
  match dropStars rest with
  | .word name :: after => ⟨" ".intercalate words, some name, after⟩
  | after =>
      if rest.head? = some (.sign '*') then ⟨" ".intercalate words, none, after⟩
      else .ofWords words after

/-- The type of one parameter; `...` has none. -/
def pieceType? (piece : List Token) : Option (List String) :=
  if piece = [.sign '.', .sign '.', .sign '.'] then some []
  else
    let parameter := TypedName.read piece
    if parameter.rest = [] then some [parameter.type] else none

/-- The types of a parameter list, from behind its opening parenthesis to the end of
the line. -/
def parameterTypes? (tokens : List Token) : Option (List String) :=
  let list := tokens.takeWhile (· != .sign ')')
  let after := tokens.dropWhile (· != .sign ')')
  if after = [.sign ')', .sign ';'] ∨ after = [.sign ')'] then
    if list = [] then some []
    else ((list.splitOn (.sign ',')).mapM pieceType?).map List.flatten
  else none

def identifiers (tokens : List Token) : List String :=
  (tokens.filterMap Token.word?).filter Text.isIdentifier

namespace Item

def storageOf : List Token → String × List Token
  | .word "typedef" :: rest => ("typedef", rest)
  | .word "extern" :: .literal _ :: rest => ("extern", rest)
  | .word "extern" :: rest => ("extern", rest)
  | .word "static" :: rest => ("static", rest)
  | rest => ("", rest)

def read? (line : List Token) : Option Item :=
  let (storage, declared) := storageOf line
  let declared := TypedName.read declared
  match declared.name, declared.rest with
  | some name, [.sign ';'] => some ⟨storage, name, [declared.type]⟩
  | some name, .sign '(' :: rest =>
      (parameterTypes? rest).map fun types => ⟨storage, name, declared.type :: types⟩
  | some name, .sign '[' :: rest | some name, .sign '=' :: rest =>
      some ⟨storage, name, declared.type :: identifiers rest⟩
  | none, .sign '(' :: .sign '*' :: .word name :: .sign ')' :: .sign '(' :: rest =>
      (parameterTypes? rest).map fun types => ⟨storage, name, declared.type :: types⟩
  | _, _ => none

end Item

def outsideBraces : Nat → List Token → List Token
  | _, [] => []
  | depth, .sign '{' :: rest => outsideBraces (depth + 1) rest
  | depth, .sign '}' :: rest => outsideBraces (depth - 1) rest
  | 0, token :: rest => token :: outsideBraces 0 rest
  | depth + 1, _ :: rest => outsideBraces (depth + 1) rest

def isDeclarationLine : List Token → Bool
  | [] => false
  | .directive _ :: _ => false
  | _ => true

/-- The lines outside of braces that declare something. -/
def declarationLines (tokens : List Token) : List (List Token) :=
  ((outsideBraces 0 tokens).splitOn .newline).filter isDeclarationLine

/-- Declarations in the order of their lines; nothing if a line is none. -/
def declarations? (text : List Char) : Option (List Item) :=
  (declarationLines (tokens text)).mapM Item.read?

variable {line first rest : List Token}

def openBraces : Nat → List Token → Nat
  | depth, [] => depth
  | depth, .sign '{' :: rest => openBraces (depth + 1) rest
  | depth, .sign '}' :: rest => openBraces (depth - 1) rest
  | depth, _ :: rest => openBraces depth rest

theorem outsideBraces_append (depth : Nat) (first rest : List Token) :
    outsideBraces depth (first ++ rest) =
      outsideBraces depth first ++ outsideBraces (openBraces depth first) rest := by
  fun_induction outsideBraces depth first <;> simp_all [outsideBraces, openBraces]

/-- Tokens that open no brace, close none and stay on one line. -/
def IsPlain (line : List Token) : Prop :=
  ∀ token ∈ line, token ≠ .newline ∧ token ≠ .sign '{' ∧ token ≠ .sign '}'

@[simp] theorem isPlain_nil : IsPlain [] := nofun

@[simp] theorem isPlain_cons {token : Token} : IsPlain (token :: rest) ↔
    (token ≠ .newline ∧ token ≠ .sign '{' ∧ token ≠ .sign '}') ∧ IsPlain rest :=
  List.forall_mem_cons

@[simp] theorem isPlain_append : IsPlain (first ++ rest) ↔ IsPlain first ∧ IsPlain rest :=
  List.forall_mem_append

theorem isPlain_words (words : List String) : IsPlain (words.map .word) := by
  intro token member
  obtain ⟨word, _, rfl⟩ := List.mem_map.mp member
  simp

theorem outsideBraces_plain (plain : IsPlain line) : outsideBraces 0 line = line := by
  induction line with
  | nil => rfl
  | cons token line induction =>
      obtain ⟨_, notOpening, notClosing⟩ := plain token List.mem_cons_self
      rw [outsideBraces, induction fun token member => plain token (List.mem_cons_of_mem _ member)]
      · exact notOpening
      · exact notClosing

theorem openBraces_plain (plain : IsPlain line) : openBraces 0 line = 0 := by
  induction line with
  | nil => rfl
  | cons token line induction =>
      obtain ⟨_, notOpening, notClosing⟩ := plain token List.mem_cons_self
      rw [openBraces, induction fun token member => plain token (List.mem_cons_of_mem _ member)]
      · exact notOpening
      · exact notClosing

/-- Lines that leave no brace open are read by themselves. -/
theorem declarationLines_append (closed : openBraces 0 first = 0) (rest : List Token) :
    declarationLines (first ++ .newline :: rest) =
      declarationLines first ++ declarationLines rest := by
  have outside : outsideBraces 0 (first ++ .newline :: rest) =
      outsideBraces 0 first ++ .newline :: outsideBraces 0 rest := by
    rw [outsideBraces_append, closed]
    simp [outsideBraces]
  have split : (outsideBraces 0 first ++ .newline :: outsideBraces 0 rest).splitOn .newline =
      (outsideBraces 0 first).splitOn .newline ++ (outsideBraces 0 rest).splitOn .newline :=
    List.splitOnP_append_cons _ _ (beq_self_eq_true _)
  simp only [declarationLines, outside, split, List.filter_append]

theorem declarationLines_flatMap {α : Type} {parts : List α} {read : α → List Token}
    (closed : ∀ part ∈ parts, openBraces 0 (read part) = 0) (rest : List Token) :
    declarationLines (parts.flatMap (fun part => read part ++ [Token.newline]) ++ rest) =
      parts.flatMap (fun part => declarationLines (read part)) ++ declarationLines rest := by
  induction parts with
  | nil => rfl
  | cons part parts induction =>
      have others := induction fun part member => closed part (List.mem_cons_of_mem _ member)
      simp only [List.flatMap_cons, List.append_assoc, List.cons_append, List.nil_append]
      rw [declarationLines_append (closed part List.mem_cons_self), others]

theorem Readings.Faithful.declarationLines_text {readings : Readings}
    (faithful : readings.Faithful)
    (closed : ∀ reading ∈ readings, openBraces 0 reading.2 = 0) :
    declarationLines (tokens readings.text.toList) =
      readings.flatMap fun reading => declarationLines reading.2 := by
  have read := faithful.tokens_text []
  have nothing : declarationLines [] = [] := rfl
  simp only [List.append_nil, tokens_nil] at read
  have lines := declarationLines_flatMap closed []
  simp only [List.append_nil, nothing] at lines
  rw [read, lines]

theorem declarationLines_plain (plain : IsPlain line) :
    declarationLines line = [line].filter isDeclarationLine := by
  have whole : line.splitOn .newline = [line] :=
    List.splitOnP_eq_singleton fun token member => beq_eq_false_iff_ne.mpr (plain token member).1
  rw [declarationLines, outsideBraces_plain plain, whole]

end PortableC.Source
