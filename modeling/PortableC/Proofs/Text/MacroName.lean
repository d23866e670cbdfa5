import PortableC.Proofs.Text.Identifier
import PortableC.Proofs.Text.MacroCase

namespace PortableC.Text

/-! Names as macros have them, without small letters. -/

/-- `[A-Z_]` -/
def macroStarts : List Char :=
  between 'A' 'Z' ++ ['_']

/-- `[A-Z0-9_]` -/
def macroParts : List Char :=
  between 'A' 'Z' ++ between '0' '9' ++ ['_']

/-- `[A-Z_][A-Z0-9_]*` -/
def macroExpression : RegularExpression Char :=
  oneOf macroStarts * (oneOf macroParts).star

def HasSmallLetter (text : List Char) : Prop :=
  ∃ char ∈ text, char.isLower = true

instance (text : List Char) : Decidable (HasSmallLetter text) :=
  decidable_of_iff (text.any Char.isLower = true) List.any_eq_true

theorem HasSmallLetter.of_beginning {beginning text : List Char} (small : HasSmallLetter beginning)
    (begins : beginning <+: text) : HasSmallLetter text :=
  small.imp fun _ found => ⟨begins.subset found.1, found.2⟩

section
variable {char : Char}

theorem mem_macroStarts_iff : char ∈ macroStarts ↔ char.isUpper = true ∨ char = '_' := by
  rw [macroStarts, List.mem_append, List.mem_singleton,
    mem_between (by decide : 'Z'.toNat < 128)]
  simp [Char.isUpper, Char.le_def]

theorem mem_macroParts_iff :
    char ∈ macroParts ↔ char.isUpper = true ∨ char.isDigit = true ∨ char = '_' := by
  rw [macroParts, List.mem_append, List.mem_append, List.mem_singleton,
    mem_between (by decide : 'Z'.toNat < 128), mem_between (by decide : '9'.toNat < 128)]
  simp [Char.isUpper, Char.isDigit, Char.le_def, or_assoc]

theorem mem_macroParts_of_mem_macroStarts (starts : char ∈ macroStarts) : char ∈ macroParts :=
  mem_macroParts_iff.mpr ((mem_macroStarts_iff.mp starts).imp_right .inr)

theorem isLower_of_mem_macroParts (part : char ∈ macroParts) : char.isLower = false := by
  rcases mem_macroParts_iff.mp part with upper | digit | rfl
  · simp [Char.isUpper, Char.isLower, UInt32.le_iff_toNat_le] at upper ⊢
    omega
  · simp [Char.isDigit, Char.isLower, UInt32.le_iff_toNat_le] at digit ⊢
    omega
  · decide

end

section
variable {name : List Char}

theorem isWord_of_macroExpression (named : name ∈ macroExpression.matches') :
    isWord name = true := by
  obtain ⟨first, rest, rfl, starts, parts⟩ := mem_matches_first_then.mp named
  rw [isWord, Bool.and_eq_true, List.all_eq_true]
  refine ⟨?_, fun char member => ?_⟩
  · rcases mem_macroStarts_iff.mp starts with upper | rfl
    · simp [isIdentifierStart, Char.isAlpha, upper]
    · decide
  · rcases mem_macroParts_iff.mp (parts char member) with upper | digit | rfl
    · simp [isIdentifierPart, Char.isAlphanum, Char.isAlpha, upper]
    · simp [isIdentifierPart, Char.isAlphanum, digit]
    · decide

theorem not_hasSmallLetter_of_macroExpression (named : name ∈ macroExpression.matches') :
    ¬ HasSmallLetter name := by
  obtain ⟨first, rest, rfl, starts, parts⟩ := mem_matches_first_then.mp named
  rintro ⟨char, member, small⟩
  have part : char ∈ macroParts := by
    rcases List.mem_cons.mp member with rfl | inRest
    · exact mem_macroParts_of_mem_macroStarts starts
    · exact parts char inRest
  rw [isLower_of_mem_macroParts part] at small
  cases small

end

/-- Macro case makes a name of every text that has a letter or digit. -/
theorem macroCase_macroExpression {text : String} {letter : Char} (inText : letter ∈ text.toList)
    (isLetter : letter.isAlphanum = true) :
    (macroCase text).toList ∈ macroExpression.matches' := by
  have inside : ∀ char ∈ MacroCase.joined (MacroCase.words text.toList), char ∈ macroParts :=
    fun _ member => mem_macroParts_iff.mpr (or_assoc.mp (MacroCase.joined_char member).symm)
  have letters := MacroCase.filter_joined_words text.toList
  have separated := MacroCase.separated_joined text.toList
  rw [toList_macroCase, MacroCase.shield_eq]
  generalize MacroCase.joined (MacroCase.words text.toList) = joined at inside letters separated ⊢
  have kept : letter.toUpper ∈ joined.filter Char.isAlphanum := by
    rw [letters]
    exact List.mem_map_of_mem (List.mem_filter.mpr ⟨inText, isLetter⟩)
  cases joined with
  | nil => cases kept
  | cons first rest =>
      obtain ⟨insideFirst, insideRest⟩ := List.forall_mem_cons.mp inside
      rw [List.head?_cons, Option.any_some]
      cases digit : first.isDigit with
      | true =>
          exact mem_matches_first_then.mpr ⟨'_', first :: rest, rfl, by decide, inside⟩
      | false =>
          refine mem_matches_first_then.mpr ⟨first, rest, rfl, ?_, insideRest⟩
          have notSeparator : first ≠ '_' := separated.begins first rfl
          simpa [mem_macroStarts_iff, mem_macroParts_iff, digit, notSeparator] using insideFirst

end PortableC.Text
