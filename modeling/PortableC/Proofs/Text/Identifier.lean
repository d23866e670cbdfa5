import Mathlib.Computability.RegularExpressions
import PortableC.Text.Identifier

namespace PortableC.Text

/-! Identifiers as the standards of C and C++ describe them.

The shape of a name is given by a regular expression, and the words that are no names by
the lists of keywords in the two standards.  The words that are refused here are some of
these.
-/

def between (first last : Char) : List Char :=
  (List.range' first.toNat (last.toNat + 1 - first.toNat)).map Char.ofNat

def nameStarts : List Char :=
  between 'A' 'Z' ++ between 'a' 'z' ++ ['_']

def nameParts : List Char :=
  between 'A' 'Z' ++ between 'a' 'z' ++ between '0' '9' ++ ['_']

/-- One character out of several. -/
def oneOf (chars : List Char) : RegularExpression Char :=
  (chars.map RegularExpression.char).sum

/-- `[A-Za-z_][A-Za-z0-9_]*` -/
def nameExpression : RegularExpression Char :=
  oneOf nameStarts * (oneOf nameParts).star

def c99Keywords : List String :=
  ["auto", "break", "case", "char", "const", "continue", "default", "do", "double", "else",
    "enum", "extern", "float", "for", "goto", "if", "inline", "int", "long", "register",
    "restrict", "return", "short", "signed", "sizeof", "static", "struct", "switch", "typedef",
    "union", "unsigned", "void", "volatile", "while", "_Bool", "_Complex", "_Imaginary"]

/-- The keywords of C++11, and behind them the words that stand for operators. -/
def cxx11Keywords : List String :=
  ["alignas", "alignof", "asm", "auto", "bool", "break", "case", "catch", "char", "char16_t",
    "char32_t", "class", "const", "constexpr", "const_cast", "continue", "decltype", "default",
    "delete", "do", "double", "dynamic_cast", "else", "enum", "explicit", "export", "extern",
    "false", "float", "for", "friend", "goto", "if", "inline", "int", "long", "mutable",
    "namespace", "new", "noexcept", "nullptr", "operator", "private", "protected", "public",
    "register", "reinterpret_cast", "return", "short", "signed", "sizeof", "static",
    "static_assert", "static_cast", "struct", "switch", "template", "this", "thread_local",
    "throw", "true", "try", "typedef", "typeid", "typename", "union", "unsigned", "using",
    "virtual", "void", "volatile", "wchar_t", "while",
    "and", "and_eq", "bitand", "bitor", "compl", "not", "not_eq", "or", "or_eq", "xor", "xor_eq"]

def standardKeywords : List String :=
  c99Keywords ++ cxx11Keywords

/-- The keywords that pass as identifiers. -/
def overlookedKeywords : List String :=
  ["_Complex", "_Imaginary", "asm", "char16_t", "char32_t", "const_cast", "decltype",
    "dynamic_cast", "export", "reinterpret_cast", "static_assert", "static_cast",
    "thread_local", "typeid", "wchar_t",
    "and", "and_eq", "bitand", "bitor", "compl", "not", "not_eq", "or", "or_eq", "xor", "xor_eq"]

variable {chars text : List Char}

theorem mem_matches_oneOf : text ∈ (oneOf chars).matches' ↔ ∃ char ∈ chars, text = [char] := by
  induction chars with
  | nil => simp [oneOf]
  | cons first rest induction =>
      rw [oneOf, List.map_cons, List.sum_cons, RegularExpression.matches'_add, Language.mem_add,
        RegularExpression.matches'_char, ← oneOf, induction, List.exists_mem_cons_iff]
      exact or_congr_left Set.mem_singleton_iff

theorem mem_matches_star_oneOf :
    text ∈ (oneOf chars).star.matches' ↔ ∀ char ∈ text, char ∈ chars := by
  rw [RegularExpression.matches'_star, Language.mem_kstar]
  constructor
  · rintro ⟨pieces, rfl, each⟩ char member
    obtain ⟨piece, listed, inPiece⟩ := List.mem_flatten.mp member
    obtain ⟨only, inChars, rfl⟩ := mem_matches_oneOf.mp (each piece listed)
    rwa [List.mem_singleton.mp inPiece]
  · intro inside
    refine ⟨text.map ([·]), (List.flatMap_singleton' text).symm, ?_⟩
    intro piece listed
    obtain ⟨char, member, rfl⟩ := List.mem_map.mp listed
    exact mem_matches_oneOf.mpr ⟨char, inside char member, rfl⟩

/-- A first character and what may follow it. -/
theorem mem_matches_first_then {starts parts : List Char} :
    text ∈ (oneOf starts * (oneOf parts).star).matches' ↔
      ∃ first rest, text = first :: rest ∧ first ∈ starts ∧ ∀ char ∈ rest, char ∈ parts := by
  rw [RegularExpression.matches'_mul, Language.mem_mul]
  constructor
  · rintro ⟨front, isStart, rest, areParts, rfl⟩
    obtain ⟨first, listed, rfl⟩ := mem_matches_oneOf.mp isStart
    exact ⟨first, rest, rfl, listed, mem_matches_star_oneOf.mp areParts⟩
  · rintro ⟨first, rest, rfl, listed, inside⟩
    exact ⟨[first], mem_matches_oneOf.mpr ⟨first, listed, rfl⟩, rest,
      mem_matches_star_oneOf.mpr inside, rfl⟩

theorem mem_between {first last : Char} (ascii : last.toNat < 128) {char : Char} :
    char ∈ between first last ↔ first ≤ char ∧ char ≤ last := by
  simp only [between, List.mem_map, List.mem_range'_1, Char.le_def, UInt32.le_iff_toNat_le]
  change _ ↔ first.toNat ≤ char.toNat ∧ char.toNat ≤ last.toNat
  constructor
  · rintro ⟨code, range, rfl⟩
    have valid : code.isValidChar := .inl (by omega)
    have written : (Char.ofNat code).toNat = code := by
      rw [Char.ofNat, dif_pos valid]
      rfl
    omega
  · intro range
    exact ⟨char.toNat, by omega, Char.ofNat_toNat char⟩

theorem mem_nameStarts_iff {char : Char} :
    char ∈ nameStarts ↔ isIdentifierStart char = true := by
  have classes : isIdentifierStart char = (decide (65 ≤ char.val ∧ char.val ≤ 90) ||
      (97 ≤ char.val && char.val ≤ 122) || char == '_') := rfl
  simp only [nameStarts, List.mem_append, List.mem_singleton,
    mem_between (by decide : 'Z'.toNat < 128), mem_between (by decide : 'z'.toNat < 128)]
  simp [classes, Char.le_def]

theorem mem_nameParts_iff {char : Char} : char ∈ nameParts ↔ isIdentifierPart char = true := by
  have classes : isIdentifierPart char = (decide (65 ≤ char.val ∧ char.val ≤ 90) ||
      (97 ≤ char.val && char.val ≤ 122) || (48 ≤ char.val && char.val ≤ 57) || char == '_') := rfl
  simp only [nameParts, List.mem_append, List.mem_singleton,
    mem_between (by decide : 'Z'.toNat < 128), mem_between (by decide : 'z'.toNat < 128),
    mem_between (by decide : '9'.toNat < 128)]
  simp [classes, Char.le_def, or_assoc]

theorem mem_matches_nameExpression : text ∈ nameExpression.matches' ↔ isWord text = true := by
  rw [nameExpression, mem_matches_first_then]
  cases text with
  | nil =>
      refine iff_of_false ?_ (by decide)
      rintro ⟨_, _, whole, _⟩
      cases whole
  | cons first rest =>
      simp only [isWord, Bool.and_eq_true, List.all_eq_true, ← mem_nameStarts_iff,
        ← mem_nameParts_iff, List.cons.injEq, and_assoc, exists_and_left, exists_eq_left']

theorem isIdentifier_iff {name : String} :
    isIdentifier name = true ↔ name.toList ∈ nameExpression.matches' ∧ name ∉ keywords := by
  rw [mem_matches_nameExpression, isIdentifier, Bool.and_eq_true, Bool.not_eq_true',
    List.contains_eq_mem, decide_eq_false_iff_not]

theorem mem_standardKeywords_iff {word : String} :
    word ∈ standardKeywords ↔ word ∈ keywords ∨ word ∈ overlookedKeywords := by
  have known : ∀ word ∈ standardKeywords, word ∈ keywords ++ overlookedKeywords := by
    decide +kernel
  have standard : ∀ word ∈ keywords ++ overlookedKeywords, word ∈ standardKeywords := by
    decide +kernel
  rw [← List.mem_append]
  exact ⟨known word, standard word⟩

theorem isIdentifier_of_overlooked :
    ∀ word ∈ overlookedKeywords, isIdentifier word = true := by
  have areWords : ∀ word ∈ overlookedKeywords, isWord word.toList = true := by decide +kernel
  have unlisted : ∀ word ∈ overlookedKeywords, word ∉ keywords := by decide +kernel
  intro word overlooked
  simp [isIdentifier, areWords word overlooked, unlisted word overlooked]

end PortableC.Text
