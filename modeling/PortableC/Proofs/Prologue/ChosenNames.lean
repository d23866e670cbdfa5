import PortableC.Proofs.Prologue.Vocabulary

namespace PortableC

/-! Where the names that a user chose are found in the text of a prologue. -/

open Source (Item Token linesWith)

namespace Toolchain

theorem exists_spelling (toolchain : Toolchain) :
    ∀ word ∈ toolchain.unreservedWords,
      ∃ type ∈ IntType.all, word ∈ Declaration.targetWords (toolchain.spelling type) := by
  cases toolchain <;> decide

end Toolchain

namespace FreeName

variable {word : String}

theorem ne_keyword (free : FreeName word) {keyword : String} (listed : keyword ∈ Text.keywords) :
    word ≠ keyword :=
  fun same => free.notKeyword (same ▸ listed)

end FreeName

namespace Declaration

variable {word : String}

/-- A free name is in a declaration as the name that is declared, or as a word of the
type that is given a name. -/
theorem word_mem_tokens_iff (free : FreeName word) (dialect : Dialect) (declared : Declaration) :
    .word word ∈ declared.tokens dialect ↔
      word = declared.name ∨ word ∈ declared.definingWords := by
  constructor
  · intro listed
    rcases word_mem_tokens listed with isName | defining | keyword | fixed
    · exact .inl isName
    · exact .inr defining
    · exact absurd keyword free.notKeyword
    · exact absurd fixed free.not_mem_fixedNames
  · cases declared <;> simp +contextual [tokens, definingWords, Declaration.name, or_imp]

theorem contains_word_iff (free : FreeName word) (dialect : Dialect) (declared : Declaration) :
    (declared.tokens dialect).contains (.word word) = true ↔
      word = declared.name ∨ word ∈ declared.definingWords := by
  rw [List.contains_iff_mem, word_mem_tokens_iff free]

theorem filter_widths_eq_nil_iff (free : FreeName word) (toolchain : Toolchain)
    (dialect : Dialect) :
    ((widths toolchain).map (tokens dialect)).filter (·.contains (.word word)) = [] ↔
      word ∉ toolchain.unreservedWords := by
  simp only [widths, List.filter_eq_nil_iff, List.forall_mem_map, contains_word_iff free,
    Declaration.name, definingWords]
  constructor
  · intro absent unreserved
    obtain ⟨type, listed, inSpelling⟩ := toolchain.exists_spelling word unreserved
    exact absent type listed (.inr inSpelling)
  · rintro reserved type _ (same | inSpelling)
    · exact free.notStdint type same
    · rcases toolchain.spellingWord_known inSpelling with keyword | unreserved
      · exact free.notKeyword keyword
      · exact reserved unreserved

theorem filter_scalars (free : FreeName word) (dialect : Dialect) :
    ((scalars dialect).map (tokens dialect)).filter (·.contains (.word word)) = [] := by
  simp only [scalars, List.filter_eq_nil_iff, List.forall_mem_map, contains_word_iff free,
    Declaration.name, definingWords]
  rintro scalar _ (same | inTarget)
  · exact free.notScalar scalar same
  · rcases scalarWord_known inTarget with keyword | fixed
    · exact free.notKeyword keyword
    · exact free.not_mem_fixedNames fixed

theorem filter_pointers (free : FreeName word) {refs : FunctionRefs} (wellFormed : refs.WellFormed)
    (dialect : Dialect) :
    ((pointers refs).map (tokens dialect)).filter (·.contains (.word word)) = [] := by
  simp only [pointers, List.filter_eq_nil_iff, List.forall_mem_map, contains_word_iff free,
    Declaration.name, definingWords, List.not_mem_nil, or_false]
  intro ref listed same
  exact free.ne_nameOf ref.purpose (same.trans (wellFormed.named ref listed))

end Declaration

namespace Prologue

variable {prologue : Prologue} {word : String}

theorem Reachable.linesWith_text (reachable : prologue.Reachable) (word : String) :
    linesWith word prologue.text.toList =
      prologue.layout.guardLines.filter (·.contains (.word word)) ++
        (prologue.declarations.map (Declaration.tokens prologue.dialect)).filter
          (·.contains (.word word)) := by
  rw [linesWith, reachable.lines_text, List.filter_append]
  exact (List.append_nil _).trans (prologue.layout.filter_rows prologue.dialect)

def allocatorTokens (prologue : Prologue) : List Token :=
  (Declaration.external prologue.backend.allocator Primitive.allocate.signature).tokens
    prologue.dialect

theorem Reachable.filter_declarations (reachable : prologue.Reachable) (free : FreeName word) :
    (prologue.declarations.map (Declaration.tokens prologue.dialect)).filter
        (·.contains (.word word)) =
      ((Declaration.widths prologue.toolchain).map
        (Declaration.tokens prologue.dialect)).filter (·.contains (.word word)) ++
        if word = prologue.backend.allocator then [prologue.allocatorTokens] else [] := by
  have external : [prologue.allocatorTokens].filter (·.contains (.word word)) =
      if word = prologue.backend.allocator then [prologue.allocatorTokens] else [] := by
    have isAllocator := Declaration.contains_word_iff free prologue.dialect
      (.external prologue.backend.allocator Primitive.allocate.signature)
    simp only [Declaration.name, Declaration.definingWords, List.not_mem_nil, or_false]
      at isAllocator
    simp only [List.filter_cons, List.filter_nil, allocatorTokens, isAllocator]
  have scalars := Declaration.filter_scalars free prologue.dialect
  have pointers := Declaration.filter_pointers free reachable.functionRefs_wellFormed
    prologue.dialect
  have listed : prologue.declarations.map (Declaration.tokens prologue.dialect) =
      (Declaration.widths prologue.toolchain).map (Declaration.tokens prologue.dialect) ++
      (Declaration.scalars prologue.dialect).map (Declaration.tokens prologue.dialect) ++
      (Declaration.pointers prologue.functionRefs).map (Declaration.tokens prologue.dialect) ++
      [prologue.allocatorTokens] := by
    simp only [declarations, Layout.declarations_eq, List.map_append]
    rfl
  rw [listed, List.filter_append, List.filter_append, List.filter_append, scalars, pointers,
    external, List.append_nil, List.append_nil]

theorem Reachable.guard_ne_allocator (reachable : prologue.Reachable) {guard : String}
    (guarded : prologue.layout.guard = some guard) : guard ≠ prologue.backend.allocator :=
  (reachable.guard_accepted guarded).2.2.2.symm

theorem Reachable.linesWith_guard (reachable : prologue.Reachable) {guard : String}
    (guarded : prologue.layout.guard = some guard) :
    linesWith guard prologue.text.toList =
      [[Token.directive "#ifndef", .word guard], [.directive "#define", .word guard]] ++
        ((Declaration.widths prologue.toolchain).map
          (Declaration.tokens prologue.dialect)).filter (·.contains (.word guard)) := by
  rw [reachable.linesWith_text, reachable.filter_declarations (reachable.guard_free guarded)]
  simp [Layout.guardLines, guarded, reachable.guard_ne_allocator guarded]

theorem Reachable.linesWith_allocator (reachable : prologue.Reachable) :
    linesWith prologue.backend.allocator prologue.text.toList =
      ((Declaration.widths prologue.toolchain).map (Declaration.tokens prologue.dialect)).filter
        (·.contains (.word prologue.backend.allocator)) ++ [prologue.allocatorTokens] := by
  have unguarded : prologue.layout.guardLines.filter
      (·.contains (.word prologue.backend.allocator)) = [] := by
    cases guarded : prologue.layout.guard with
    | none => simp [Layout.guardLines, guarded]
    | some guard =>
        simp [Layout.guardLines, guarded, (reachable.guard_ne_allocator guarded).symm]
  rw [reachable.linesWith_text, reachable.filter_declarations prologue.backend.allocator_free,
    unguarded]
  simp

theorem count_allocatorTokens (prologue : Prologue) :
    prologue.allocatorTokens.count (.word prologue.backend.allocator) = 1 := by
  have notExtern : "extern" ≠ prologue.backend.allocator :=
    (prologue.backend.allocator_free.ne_keyword (by decide)).symm
  have notVoid : "void" ≠ prologue.backend.allocator :=
    (prologue.backend.allocator_free.ne_keyword (by decide)).symm
  have notU32 : "u32" ≠ prologue.backend.allocator :=
    (prologue.backend.allocator_free.notScalar (.int .u32)).symm
  have shape : prologue.allocatorTokens = prologue.dialect.storageTokens ++
      [Token.word "void", .sign '*', .word prologue.backend.allocator, .sign '(', .word "u32",
        .sign ')', .sign ';'] := by
    simp only [allocatorTokens, Declaration.tokens, List.append_assoc]
    rfl
  rw [shape]
  cases prologue.dialect <;>
    simp [Dialect.storageTokens, notExtern, notVoid, notU32]

/-- A guard is on the two lines that test and define it, and an allocator's name is
nowhere but in its declaration, just as long as the name is no word of the native
spellings.  Nothing refuses such a word for Microsoft's front end, and then the name
is also on the lines that define the standard types. -/
theorem chosen_names_kept_apart_iff (reachable : prologue.Reachable) :
    (∀ guard, prologue.layout.guard = some guard →
      (linesWith guard prologue.text.toList =
        [[Token.directive "#ifndef", .word guard], [.directive "#define", .word guard]] ↔
        ¬ (prologue.toolchain = .msvc ∧
          guard ∈ ["__int8", "__int16", "__int32", "__int64"]))) ∧
    ((∃ line, linesWith prologue.backend.allocator prologue.text.toList = [line] ∧
        line.count (.word prologue.backend.allocator) = 1 ∧
        Item.read? line = some ⟨"extern", prologue.backend.allocator, ["void", "u32"]⟩) ↔
      ¬ (prologue.toolchain = .msvc ∧
        prologue.backend.allocator ∈ ["__int8", "__int16", "__int32", "__int64"])) := by
  have unreserved_iff (word : String) : word ∈ prologue.toolchain.unreservedWords ↔
      prologue.toolchain = .msvc ∧ word ∈ ["__int8", "__int16", "__int32", "__int64"] := by
    cases prologue.toolchain <;> simp [Toolchain.unreservedWords]
  constructor
  · intro guard guarded
    rw [reachable.linesWith_guard guarded, List.append_right_eq_self, ← unreserved_iff]
    exact Declaration.filter_widths_eq_nil_iff (reachable.guard_free guarded) _ _
  · rw [reachable.linesWith_allocator, ← unreserved_iff,
      ← Declaration.filter_widths_eq_nil_iff prologue.backend.allocator_free _ prologue.dialect]
    constructor
    · rintro ⟨line, alone, _⟩
      rcases List.append_eq_singleton_iff.mp alone with ⟨absent, _⟩ | ⟨_, empty⟩
      · exact absent
      · simp at empty
    · intro absent
      refine ⟨prologue.allocatorTokens, ?_, prologue.count_allocatorTokens,
        Declaration.read?_tokens _ _⟩
      rw [absent, List.nil_append]

/-- `__int8` passes as a guard, and erases itself from the types defined below it. -/
theorem chosen_names_kept_apart_iff_native_guard :
    let target : Target := { compiler := .msvc, guard := some "__int8" }
    ∃ made, target.prologue = .ok made ∧
      linesWith "__int8" made.text.toList ≠
        [[.directive "#ifndef", .word "__int8"], [.directive "#define", .word "__int8"]] ∧
      ∃ line, linesWith "calloc" made.text.toList = [line] ∧
        line.count (.word "calloc") = 1 ∧
        Item.read? line = some ⟨"extern", "calloc", ["void", "u32"]⟩ := by
  intro target
  have accepted : isAllocatorName "calloc" = true := by decide
  have checked : Target.checkGuard ⟨.msvc, "calloc", accepted⟩ (some "__int8") = .ok () := by
    decide +revert
  have made : target.prologue =
      .ok ⟨⟨.msvc, "calloc", accepted⟩, target.functionRefs, target.layout⟩ :=
    Target.prologue_eq_ok_iff.mpr ⟨.msvc, rfl, dif_pos accepted, checked, rfl, rfl⟩
  obtain ⟨guards, allocator⟩ := chosen_names_kept_apart_iff (Reachable.made made)
  refine ⟨_, made, fun apart => ?_, allocator.mpr ?_⟩
  · exact (guards "__int8" rfl).mp apart ⟨rfl, by decide⟩
  · rintro ⟨_, native⟩
    have notNative : "calloc" ∉ ["__int8", "__int16", "__int32", "__int64"] := by decide
    exact notNative native

end Prologue

end PortableC
