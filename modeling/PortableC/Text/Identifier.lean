namespace PortableC.Text

/-! Identifiers of the C family: an ASCII letter or underscore followed by ASCII
letters, digits and underscores, outside a list of reserved words. -/

def isIdentifierStart (char : Char) : Bool :=
  char.isAlpha || char == '_'

def isIdentifierPart (char : Char) : Bool :=
  char.isAlphanum || char == '_'

/-- Words of C99 and C++11 that are refused as names of symbols and macros. -/
def keywords : List String :=
  ["alignas", "alignof", "auto", "bool", "break", "case", "catch", "char", "class", "const",
    "constexpr", "continue", "default", "delete", "do", "double", "else", "enum", "explicit",
    "extern", "false", "float", "for", "friend", "goto", "if", "inline", "int", "long",
    "mutable", "namespace", "new", "noexcept", "nullptr", "operator", "private", "protected",
    "public", "register", "restrict", "return", "short", "signed", "sizeof", "static",
    "struct", "switch", "template", "this", "throw", "true", "try", "typedef", "typename",
    "union", "unsigned", "using", "virtual", "void", "volatile", "while", "_Bool"]

def isWord : List Char → Bool
  | [] => false
  | first :: rest => isIdentifierStart first && rest.all isIdentifierPart

def isIdentifier (name : String) : Bool :=
  isWord name.toList && !keywords.contains name

theorem isIdentifierPart_of_isIdentifierStart {char : Char}
    (starts : isIdentifierStart char = true) : isIdentifierPart char = true := by
  rw [isIdentifierStart, Bool.or_eq_true] at starts
  rcases starts with letter | underscore
  · simp [isIdentifierPart, Char.isAlphanum, letter]
  · simp [isIdentifierPart, underscore]

end PortableC.Text
