import PortableC.Proofs.Source.Item

namespace PortableC.Source

/-! Texts that declare something, put together from their parts. -/

variable {first second : List Char} {items others : List Item}

/-- The text adds these items in front of what any other text declares. -/
def Declares (text : List Char) (items : List Item) : Prop :=
  ∀ rest, declarations? (text ++ rest) = (declarations? rest).map (items ++ ·)

namespace Declares

theorem nil : Declares [] [] := by
  intro rest
  cases found : declarations? rest <;> simp [found]

theorem append (declaresFirst : Declares first items) (declaresSecond : Declares second others) :
    Declares (first ++ second) (items ++ others) := by
  intro rest
  rw [List.append_assoc, declaresFirst, declaresSecond]
  cases declarations? rest <;> simp

theorem whole (declares : Declares first items) : declarations? first = some items := by
  have nothing : declarations? [] = some [] := rfl
  simpa [nothing] using declares []

theorem of_readings {readings : Readings} (faithful : readings.Faithful)
    (closed : ∀ reading ∈ readings, openBraces 0 reading.2 = 0)
    (readItems : (readings.flatMap fun reading => declarationLines reading.2).mapM Item.read? =
      some items) :
    Declares readings.text.toList items := by
  intro rest
  rw [declarations?, faithful.tokens_text, declarationLines_flatMap closed, List.mapM_append,
    readItems, declarations?]
  cases (declarationLines (tokens rest)).mapM Item.read? <;> rfl

end Declares

end PortableC.Source
