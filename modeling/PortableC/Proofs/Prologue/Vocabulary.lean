import PortableC.Proofs.Prologue.Names

namespace PortableC

/-! The words in the text of a prologue.

Besides the names that a user chose they are keywords, names of standard and of scalar types,
words of native spellings, and the names of references.
-/

open FunctionRef (nameOf)
open Source (Token)

variable {word : String}

theorem BaseType.spelling_known (base : BaseType) :
    base.spelling ∈ Text.keywords ∨ base.spelling ∈ fixedNames := by
  cases base with
  | void => exact .inl (by decide)
  | scalar type =>
      exact .inr (List.mem_append_right _ (List.mem_map_of_mem type.mem_all))

namespace Toolchain

/-- The words of the native spellings that are no reserved words, so that nothing keeps
a user from choosing them. -/
def unreservedWords : Toolchain → List String
  | .msvc => ["__int8", "__int16", "__int32", "__int64"]
  | .gnu => []

theorem spellingWord_known {toolchain : Toolchain} {type : IntType}
    (listed : word ∈ Declaration.targetWords (toolchain.spelling type)) :
    word ∈ Text.keywords ∨ word ∈ toolchain.unreservedWords := by
  have known : ∀ word ∈ toolchain.nativeWords,
      word ∈ Text.keywords ∨ word ∈ toolchain.unreservedWords := by
    cases toolchain <;> simp [nativeWords, Text.keywords, unreservedWords]
  exact known word (toolchain.targetWords_spelling_subset type listed)

end Toolchain

namespace Declaration

variable {dialect : Dialect} {declared : Declaration}

/-- The words of a type that is given a name. -/
def definingWords : Declaration → List String
  | .typedef target _ => targetWords target
  | .pointer _ _ | .external _ _ => []

theorem word_mem_type {type : CType} (listed : .word word ∈ type.tokens) :
    word ∈ Text.keywords ∨ word ∈ fixedNames := by
  rcases List.mem_cons.mp listed with same | isStar
  · rw [Token.word.inj same]
    exact type.base.spelling_known
  · cases List.eq_of_mem_replicate isStar

theorem word_mem_parameters {signature : Signature}
    (listed : .word word ∈ signature.parameterTokens) :
    word ∈ Text.keywords ∨ word ∈ fixedNames := by
  rcases Signature.mem_parameterTokens listed with ⟨base, same⟩ | ⟨_, _, same⟩
  · rw [Token.word.inj same]
    exact base.spelling_known
  · cases same

theorem word_mem_tokens (listed : .word word ∈ declared.tokens dialect) :
    word = declared.name ∨ word ∈ declared.definingWords ∨ word ∈ Text.keywords ∨
      word ∈ fixedNames := by
  have typedef : "typedef" ∈ Text.keywords := by decide
  have external : "extern" ∈ Text.keywords := by decide
  cases declared with
  | typedef target name =>
      simp only [tokens, List.cons_append, List.mem_cons, List.mem_append, List.mem_map,
        Token.word.injEq, exists_eq_right, List.not_mem_nil, reduceCtorEq, or_false] at listed
      rcases listed with rfl | inTarget | isName
      · exact .inr (.inr (.inl typedef))
      · exact .inr (.inl inTarget)
      · exact .inl isName
  | pointer name signature =>
      simp only [tokens, List.cons_append, List.mem_cons, List.mem_append, Token.word.injEq,
        List.not_mem_nil, reduceCtorEq, or_false, false_or] at listed
      rcases listed with rfl | ((inReturn | isName) | inParameters)
      · exact .inr (.inr (.inl typedef))
      · exact .inr (.inr (word_mem_type inReturn))
      · exact .inl isName
      · exact .inr (.inr (word_mem_parameters (Dialect.mem_parameterTokens inParameters)))
  | external name signature =>
      simp only [tokens, List.mem_append, List.mem_cons, Token.word.injEq, List.not_mem_nil,
        reduceCtorEq, or_false] at listed
      rcases listed with ((inStorage | inReturn) | isName) | inParameters
      · have isExtern : word = "extern" := by
          cases dialect <;> simpa [Dialect.storageTokens] using inStorage
        exact .inr (.inr (.inl (isExtern ▸ external)))
      · exact .inr (.inr (word_mem_type inReturn))
      · exact .inl isName
      · exact .inr (.inr (word_mem_parameters inParameters))

theorem scalarWord_known {scalar : Scalar}
    (listed : word ∈ targetWords (scalarTarget dialect scalar)) :
    word ∈ Text.keywords ∨ word ∈ fixedNames := by
  rw [targetWords_of_isWord (isWord_scalarTarget dialect scalar), List.mem_singleton] at listed
  rw [listed]
  cases scalar with
  | bool =>
      refine .inl ?_
      cases dialect <;> simp [scalarTarget, Dialect.boolSpelling, Text.keywords]
  | int type => exact .inr (List.mem_append_left _ (List.mem_map_of_mem type.mem_all))

end Declaration

namespace Prologue

variable {prologue : Prologue}

/-- Why a word is in the text of a prologue. -/
inductive Uses (prologue : Prologue) (word : String) : Prop
  | keyword (listed : word ∈ Text.keywords)
  | fixed (listed : word ∈ fixedNames)
  | native (listed : word ∈ prologue.toolchain.unreservedWords)
  | reference (purpose : Option Signature) (named : word = nameOf purpose)
  | allocator (same : word = prologue.backend.allocator)
  | guard (guarded : prologue.layout.guard = some word)

theorem Reachable.uses_of_declared (reachable : prologue.Reachable) {declared : Declaration}
    (listed : declared ∈ prologue.declarations)
    (inDeclaration : .word word ∈ declared.tokens prologue.dialect) : prologue.Uses word := by
  simp only [declarations, Layout.declarations_eq, List.mem_append, List.mem_singleton,
    or_assoc] at listed
  rcases Declaration.word_mem_tokens inDeclaration with rfl | defining | keyword | fixed
  · rcases listed with inWidths | inScalars | inPointers | rfl
    · obtain ⟨type, _, rfl⟩ := List.mem_map.mp inWidths
      exact .fixed (List.mem_append_left _ (List.mem_map_of_mem type.mem_all))
    · obtain ⟨scalar, _, rfl⟩ := List.mem_map.mp inScalars
      exact .fixed (List.mem_append_right _ (List.mem_map_of_mem scalar.mem_all))
    · obtain ⟨ref, inRefs, rfl⟩ := List.mem_map.mp inPointers
      exact .reference ref.purpose (reachable.functionRefs_wellFormed.named ref inRefs)
    · exact .allocator rfl
  · rcases listed with inWidths | inScalars | inPointers | rfl
    · obtain ⟨type, _, rfl⟩ := List.mem_map.mp inWidths
      rcases Toolchain.spellingWord_known defining with keyword | unreserved
      · exact .keyword keyword
      · exact .native unreserved
    · obtain ⟨scalar, _, rfl⟩ := List.mem_map.mp inScalars
      exact (Declaration.scalarWord_known defining).elim .keyword .fixed
    · obtain ⟨ref, _, rfl⟩ := List.mem_map.mp inPointers
      cases defining
    · cases defining
  · exact .keyword keyword
  · exact .fixed fixed

theorem Reachable.uses_of_mem (reachable : prologue.Reachable)
    (listed : .word word ∈ Source.tokens prologue.text.toList) : prologue.Uses word := by
  have read := reachable.faithful_readings.tokens_text []
  simp only [List.append_nil, Source.tokens_nil, ← text_eq_readings] at read
  rw [read] at listed
  obtain ⟨reading, inReadings, inLine⟩ := List.mem_flatMap.mp listed
  obtain ⟨row, inRows, rfl⟩ := List.mem_map.mp inReadings
  have inRow : .word word ∈ row.tokens prologue.dialect := by simpa using inLine
  rcases Layout.mem_rows inRows with rfl | rfl | ⟨guard, guarded, rfl | rfl | rfl⟩ |
    ⟨declared, isDeclared, rfl⟩
  · cases inRow
  · cases inRow
  · obtain rfl : word = guard := by simpa [Row.tokens] using inRow
    exact .guard guarded
  · obtain rfl : word = guard := by simpa [Row.tokens] using inRow
    exact .guard guarded
  · simp [Row.tokens] at inRow
  · exact reachable.uses_of_declared isDeclared inRow

end Prologue

end PortableC
