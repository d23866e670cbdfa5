import PortableC.Proofs.Prologue.Reachable
import PortableC.Proofs.Text.Identifier

namespace PortableC

/-! Keywords among the names that a user may choose. -/

open Text (c99Keywords cxx11Keywords isIdentifier nameExpression overlookedKeywords
  standardKeywords)

variable {word : String}

theorem FreeName.overlooked (free : FreeName word) (keyword : word ∈ standardKeywords) :
    word ∈ overlookedKeywords :=
  (Text.mem_standardKeywords_iff.mp keyword).resolve_left free.notKeyword

/-- Whatever passes as an identifier here passes all other checks as well. -/
theorem isFreeName_of_overlooked (overlooked : word ∈ overlookedKeywords) :
    isFreeName word = true := by
  have unclaimed : ∀ word ∈ overlookedKeywords, isClaimedName word = false := by
    decide +kernel
  rw [isFreeName, Text.isIdentifier_of_overlooked word overlooked, unclaimed word overlooked]
  rfl

theorem isAllocatorName_of_overlooked (overlooked : word ∈ overlookedKeywords) :
    isAllocatorName word = true := by
  have notMemset : "memset" ≠ word := by
    rintro rfl
    exact absurd overlooked (by decide)
  rw [isAllocatorName, isFreeName_of_overlooked overlooked]
  simp [Primitive.all, Primitive.name, notMemset]

theorem isGuardName_of_overlooked {backend : Backend} (overlooked : word ∈ overlookedKeywords)
    (other : backend.allocator ≠ word) : Target.isGuardName backend word = true := by
  refine Target.isGuardName_iff.mpr ⟨isFreeName_of_overlooked overlooked, ?_, ?_, other⟩
  · rintro rfl
    exact absurd overlooked (by decide)
  · rintro rfl
    exact absurd overlooked (by decide)

/-- Every backend is that of some prologue, in each dialect and with each guard that passes. -/
theorem Prologue.exists_reachable (backend : Backend) (dialect : Dialect) (guard : Option String)
    (checked : Target.checkGuard backend guard = .ok ()) :
    ∃ prologue : Prologue, prologue.Reachable ∧ prologue.backend = backend ∧
      prologue.dialect = dialect ∧ prologue.layout.guard = guard := by
  obtain ⟨compiler, resolved⟩ := Compiler.exists_toolchain backend.toolchain
  let target : Target := { compiler, dialect, allocator := some backend.allocator, guard }
  have accepted : target.prologue = .ok ⟨backend, target.functionRefs, target.layout⟩ :=
    Target.prologue_of_checked resolved rfl checked
  exact ⟨_, .made accepted, rfl, rfl, rfl⟩

/-- Identifiers are what the standards of C99 and C++11 say they are, keywords and words for
operators left out, except for 26 of these words.  Those pass as identifiers, and on every
toolchain and in every dialect there are prologues that declare one of them as the
allocator or define it as the guard; no prologue does so with another keyword. -/
theorem identifiers_exclude_keywords_iff (name : String) :
    ((isIdentifier name = true ↔
        name.toList ∈ nameExpression.matches' ∧ name ∉ c99Keywords ∧ name ∉ cxx11Keywords) ↔
      name ∉ overlookedKeywords) ∧
    (name ∈ c99Keywords ∨ name ∈ cxx11Keywords → ∀ toolchain dialect,
      ((∃ prologue : Prologue, prologue.Reachable ∧ prologue.toolchain = toolchain ∧
          prologue.dialect = dialect ∧ prologue.backend.allocator = name) ↔
        name ∈ overlookedKeywords) ∧
      ((∃ prologue : Prologue, prologue.Reachable ∧ prologue.toolchain = toolchain ∧
          prologue.dialect = dialect ∧ prologue.layout.guard = some name) ↔
        name ∈ overlookedKeywords)) := by
  have standard_iff : name ∈ standardKeywords ↔ name ∈ c99Keywords ∨ name ∈ cxx11Keywords :=
    List.mem_append
  constructor
  · rw [← not_or, ← standard_iff]
    by_cases overlooked : name ∈ overlookedKeywords
    · have isStandard : name ∈ standardKeywords :=
        Text.mem_standardKeywords_iff.mpr (.inr overlooked)
      simp [Text.isIdentifier_of_overlooked name overlooked, isStandard, overlooked]
    · simp [Text.isIdentifier_iff, Text.mem_standardKeywords_iff, overlooked]
  · intro keyword toolchain dialect
    have isStandard := standard_iff.mpr keyword
    constructor
    · constructor
      · rintro ⟨prologue, _, _, _, rfl⟩
        exact prologue.backend.allocator_free.overlooked isStandard
      · intro overlooked
        let backend : Backend := ⟨toolchain, name, isAllocatorName_of_overlooked overlooked⟩
        obtain ⟨prologue, reachable, same, isDialect, _⟩ :=
          Prologue.exists_reachable backend dialect none rfl
        exact ⟨prologue, reachable, congrArg Backend.toolchain same, isDialect,
          congrArg Backend.allocator same⟩
    · constructor
      · rintro ⟨prologue, reachable, _, _, guarded⟩
        have free := freeName_of_isFreeName (reachable.guard_accepted guarded).1
        exact free.overlooked isStandard
      · intro overlooked
        let backend : Backend := ⟨toolchain, "calloc", by decide⟩
        have other : "calloc" ≠ name := by
          rintro rfl
          exact absurd overlooked (by decide)
        have checked : Target.checkGuard backend (some name) = .ok () :=
          if_pos (isGuardName_of_overlooked overlooked other)
        obtain ⟨prologue, reachable, same, isDialect, guarded⟩ :=
          Prologue.exists_reachable backend dialect (some name) checked
        exact ⟨prologue, reachable, congrArg Backend.toolchain same, isDialect, guarded⟩

/-- A keyword that passes everywhere, and one that passes nowhere. -/
theorem identifiers_exclude_keywords_iff_decltype :
    "decltype" ∈ cxx11Keywords ∧ isIdentifier "decltype" = true ∧
      (∃ prologue : Prologue, prologue.Reachable ∧ prologue.toolchain = .gnu ∧
        prologue.dialect = .cxx ∧ prologue.backend.allocator = "decltype") ∧
      (∃ prologue : Prologue, prologue.Reachable ∧ prologue.toolchain = .msvc ∧
        prologue.dialect = .cxx ∧ prologue.layout.guard = some "decltype") ∧
      "restrict" ∈ c99Keywords ∧ isIdentifier "restrict" = false ∧
      ¬ ∃ prologue : Prologue, prologue.Reachable ∧ prologue.toolchain = .gnu ∧
        prologue.dialect = .c ∧ prologue.backend.allocator = "restrict" := by
  have listed : "decltype" ∈ cxx11Keywords := by decide
  have passes : "decltype" ∈ overlookedKeywords := by decide
  have alsoListed : "restrict" ∈ c99Keywords := by decide
  have refused : "restrict" ∉ overlookedKeywords := by decide
  obtain ⟨_, decltype⟩ := identifiers_exclude_keywords_iff "decltype"
  obtain ⟨restrict_iff, restrict⟩ := identifiers_exclude_keywords_iff "restrict"
  refine ⟨listed, Text.isIdentifier_of_overlooked _ passes,
    (decltype (.inr listed) .gnu .cxx).1.mpr passes,
    (decltype (.inr listed) .msvc .cxx).2.mpr passes, alsoListed, ?_, ?_⟩
  · rw [← Bool.not_eq_true, restrict_iff.mpr refused]
    exact fun shaped => shaped.2.1 alsoListed
  · exact fun declared => refused ((restrict (.inl alsoListed) .gnu .c).1.mp declared)

end PortableC
