import PortableC.Text.Identifier

namespace PortableC.Text

/-! Texts of words with a few other characters between them. -/

/-- All characters of the text are those of words, or are listed. -/
def WrittenIn (signs : List Char) (text : String) : Prop :=
  ∀ char ∈ text.toList, isIdentifierPart char = true ∨ char ∈ signs

instance (signs : List Char) (text : String) : Decidable (WrittenIn signs text) :=
  List.decidableBAll (fun char => isIdentifierPart char = true ∨ char ∈ signs) text.toList

namespace WrittenIn

variable {signs others : List Char} {text first second : String} {char : Char}

theorem append (written : WrittenIn signs first) (writtenToo : WrittenIn signs second) :
    WrittenIn signs (first ++ second) := by
  rw [WrittenIn, String.toList_append]
  exact List.forall_mem_append.mpr ⟨written, writtenToo⟩

theorem mono (written : WrittenIn signs text) (wider : signs ⊆ others) :
    WrittenIn others text :=
  fun char member => (written char member).imp_right (wider ·)

theorem not_mem (written : WrittenIn signs text) (notPart : isIdentifierPart char = false)
    (notSign : char ∉ signs) : char ∉ text.toList := by
  intro member
  rcases written char member with part | sign
  · rw [notPart] at part
    cases part
  · exact notSign sign

end WrittenIn

end PortableC.Text
