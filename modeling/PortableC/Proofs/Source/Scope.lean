import PortableC.Proofs.Source.Item

namespace PortableC.Source

/-! Names that are declared before they are used. -/

variable {builtin other : Item → String → Prop} {items : List Item}

/-- An item mentions what is built in for it and what the items in front of it
declare. -/
def DeclaredBeforeUse (builtin : Item → String → Prop) (items : List Item) : Prop :=
  ∀ before item after, items = before ++ item :: after →
    ∀ type ∈ item.mentions, builtin item type ∨ type ∈ before.map Item.name

namespace DeclaredBeforeUse

theorem of_builtin (each : ∀ item ∈ items, ∀ type ∈ item.mentions, builtin item type) :
    DeclaredBeforeUse builtin items := by
  rintro before item after rfl type mentioned
  exact .inl (each item (by simp) type mentioned)

theorem mono (declared : DeclaredBeforeUse builtin items)
    (wider : ∀ item type, builtin item type → other item type) :
    DeclaredBeforeUse other items :=
  fun before item after shape type mentioned =>
    (declared before item after shape type mentioned).imp_left (wider item type)

/-- Items that use none of each other, behind the ones they use. -/
theorem append (declared : DeclaredBeforeUse builtin items) (others : List Item)
    (each : ∀ item ∈ others, ∀ type ∈ item.mentions,
      builtin item type ∨ type ∈ items.map Item.name) :
    DeclaredBeforeUse builtin (items ++ others) := by
  intro before item after shape type mentioned
  rcases List.append_eq_append_iff.mp shape with ⟨between, rfl, rest⟩ | ⟨between, rfl, rest⟩
  · have member : item ∈ others := by simp [rest]
    exact (each item member type mentioned).imp_right fun listed => by simp [listed]
  · cases between with
    | nil =>
        have member : item ∈ others := by
          rw [List.nil_append] at rest
          simp [← rest]
        simpa using each item member type mentioned
    | cons first between =>
        obtain ⟨rfl, _⟩ := List.cons.inj rest
        exact declared before item between rfl type mentioned

end DeclaredBeforeUse

end PortableC.Source
