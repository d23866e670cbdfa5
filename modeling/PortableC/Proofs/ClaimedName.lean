import PortableC.ClaimedName

namespace PortableC

/-! What a free name is not. -/

structure FreeName (name : String) : Prop where
  isWord : Text.isWord name.toList = true
  notKeyword : name ∉ Text.keywords
  notScalar : ∀ scalar : Scalar, name ≠ scalar.name
  notStdint : ∀ type : IntType, name ≠ type.stdintName
  notHandle : name ≠ handleName
  notGenerated : ∀ beginning ∈ claimedBeginnings, startsWith beginning name = false

theorem freeName_of_isFreeName {name : String} (free : isFreeName name = true) :
    FreeName name := by
  simp only [isFreeName, Text.isIdentifier, isClaimedName, Bool.and_eq_true, Bool.not_eq_true',
    Bool.or_eq_false_iff, List.any_eq_false, List.contains_eq_mem, decide_eq_false_iff_not,
    beq_eq_false_iff_ne, beq_iff_eq, Bool.not_eq_true] at free
  obtain ⟨⟨isWord, notKeyword⟩, ⟨⟨notScalar, notStdint⟩, notHandle⟩, notGenerated⟩ := free
  exact
    { isWord, notKeyword, notHandle, notGenerated
      notScalar := fun scalar same => notScalar scalar scalar.mem_all same.symm
      notStdint := fun type same => notStdint type type.mem_all same.symm }

theorem startsWith_append (beginning ending : String) :
    startsWith beginning (beginning ++ ending) = true := by
  simp [startsWith]

/-- A name has two beginnings only when one of them begins the other. -/
theorem startsWith_eq_false {first second name : String} (starts : startsWith first name = true)
    (apart : ¬ first.toList <+: second.toList ∧ ¬ second.toList <+: first.toList) :
    startsWith second name = false := by
  rw [startsWith, List.isPrefixOf_iff_prefix] at starts
  rw [startsWith, ← Bool.not_eq_true, List.isPrefixOf_iff_prefix]
  intro both
  exact (List.prefix_or_prefix_of_prefix starts both).elim apart.1 apart.2

theorem FreeName.ne_of_startsWith {name generated beginning : String} (free : FreeName name)
    (listed : beginning ∈ claimedBeginnings) (starts : startsWith beginning generated = true) :
    name ≠ generated := by
  rintro rfl
  simp [free.notGenerated beginning listed] at starts

end PortableC
