import PortableC.Proofs.Prologue.Lines
import PortableC.Proofs.Prologue.Vocabulary

namespace PortableC

/-! What a prologue leaves to the compiler and to the linker.

It rebinds no symbol: it has no directives but those of its guard, and does not mention what
fills memory.  The linker has to supply one symbol, the allocator.
-/

open Source (Token)

namespace Backend

variable (backend : Backend)

theorem memset_ne_allocator : "memset" ≠ backend.allocator := by
  intro same
  have accepted := backend.allocator_accepted
  rw [← same] at accepted
  exact absurd accepted (by decide)

theorem symbol_names_ne : (backend.symbol .fillMemory).name ≠ (backend.symbol .allocate).name := by
  change _ ≠ backend.allocator
  cases found : backend.toolchain with
  | msvc =>
      simp only [symbol, found]
      exact backend.memset_ne_allocator
  | gnu =>
      simp only [symbol, found]
      have listed : "__builtin_" ∈ claimedBeginnings := by decide
      exact (backend.allocator_free.ne_of_startsWith listed (by decide)).symm

theorem externalText_eq (dialect : Dialect) :
    (Declaration.external backend.allocator Primitive.allocate.signature).text dialect =
      dialect.unmangledStorage ++ " void* " ++ (backend.symbol .allocate).name ++ "(u32);" := by
  have returned : Primitive.allocate.signature.ret.spelling = "void*" := by decide
  have parameters : Primitive.allocate.signature.parameterText = "u32" := by decide
  have named : (backend.symbol .allocate).name = backend.allocator := rfl
  apply String.toList_inj.mp
  simp [Declaration.text, returned, parameters, named]

theorem symbol_primitive (primitive : Primitive) :
    (backend.symbol primitive).primitive = primitive := by
  obtain ⟨toolchain, allocator, accepted⟩ := backend
  cases primitive <;> cases toolchain <;> rfl

theorem symbolFor?_isSome_iff (name : String) :
    (backend.symbolFor? name).isSome = true ↔ name = "memset" ∨ name = "calloc" := by
  simp only [symbolFor?, symbols, Primitive.all, List.map_cons, List.map_nil, List.find?_isSome,
    List.mem_cons, List.not_mem_nil, or_false, exists_eq_or_imp, exists_eq_left, symbol_primitive,
    Primitive.name, beq_iff_eq]
  exact or_congr eq_comm eq_comm

end Backend

namespace Row

def isDirective : Row → Bool
  | .guardTest _ | .guardDefinition _ | .guardEnd _ => true
  | .banner _ | .blank | .declaration _ => false

def isExternal : Row → Bool
  | .declaration (.external _ _) => true
  | _ => false

theorem contains_hash (dialect : Dialect) {row : Row} (wellSpelled : row.WellSpelled) :
    (row.text dialect).toList.contains '#' = row.isDirective := by
  cases row with
  | banner toolchain => cases toolchain <;> cases dialect <;> decide +kernel
  | guardTest guard | guardDefinition guard | guardEnd guard => simp [text, isDirective]
  | blank => rfl
  | declaration declared =>
      have absent : '#' ∉ (declared.text dialect).toList :=
        (declared.writtenIn_text dialect wellSpelled).not_mem (by decide) (by decide)
      simpa [text, isDirective] using absent

theorem startsWith_text (dialect : Dialect) (row : Row) :
    startsWith "extern" (row.text dialect) = row.isExternal := by
  cases row with
  | banner toolchain => cases toolchain <;> cases dialect <;> decide +kernel
  | guardTest guard | guardDefinition guard | guardEnd guard =>
      simp [text, isExternal, startsWith, List.isPrefixOf]
  | blank => rfl
  | declaration declared =>
      cases declared with
      | typedef _ _ | pointer _ _ =>
          simp [text, isExternal, Declaration.text, startsWith, List.isPrefixOf]
      | external _ _ =>
          cases dialect <;>
            simp [text, isExternal, Declaration.text, startsWith, Dialect.unmangledStorage]

end Row

namespace Layout

variable {backend : Backend} {refs : FunctionRefs}

def directiveTexts (layout : Layout) : List String :=
  match layout.guard with
  | none => []
  | some guard => ["#ifndef " ++ guard, "#define " ++ guard, "#endif /* " ++ guard ++ " */"]

def guardRows (layout : Layout) : List Row :=
  match layout.guard with
  | none => []
  | some guard => [.guardTest guard, .guardDefinition guard, .guardEnd guard]

theorem filter_isDirective_rows (layout : Layout) :
    (layout.rows backend refs).filter Row.isDirective = layout.guardRows := by
  have banner : (layout.bannerRows backend.toolchain).filter Row.isDirective = [] := by
    rw [bannerRows]
    split <;> rfl
  have body : (layout.bodyRows backend refs).filter Row.isDirective = [] := by
    rw [List.filter_eq_nil_iff]
    intro row listed
    rcases mem_bodyRows listed with rfl | ⟨_, _, rfl⟩ <;> simp [Row.isDirective]
  rw [rows, List.filter_append, List.filter_append, List.filter_append, banner, body]
  simp only [openingRows, closingRows, guardRows]
  cases layout.guard <;> rfl

theorem map_text_guardRows (layout : Layout) :
    layout.guardRows.map (Row.text layout.dialect) = layout.directiveTexts := by
  rw [guardRows, directiveTexts]
  cases layout.guard <;> rfl

theorem filter_isExternal_rows (layout : Layout) :
    (layout.rows backend refs).filter Row.isExternal =
      [.declaration (.external backend.allocator Primitive.allocate.signature)] := by
  let external (declared : Declaration) : Bool := (Row.declaration declared).isExternal
  have widths : (Declaration.widths backend.toolchain).filter external = [] := rfl
  have scalars : (Declaration.scalars layout.dialect).filter external = [] := rfl
  have pointers : (Declaration.pointers refs).filter external = [] := by
    simp [Declaration.pointers, external, Row.isExternal]
  have onlyDeclared (row : Row) (undeclared : row.declared? = none) : row.isExternal = false := by
    cases row with
    | declaration _ => cases undeclared
    | banner _ | guardTest _ | guardDefinition _ | guardEnd _ | blank => rfl
  rw [filter_rows_declared layout backend refs onlyDeclared, declarations_eq, List.filter_append,
    List.filter_append, List.filter_append, widths, scalars, pointers]
  rfl

end Layout

namespace Prologue

variable {prologue : Prologue}

theorem filter_items (prologue : Prologue) :
    prologue.items.filter (·.storage != "typedef") =
      [⟨"extern", prologue.backend.allocator, ["void", "u32"]⟩] := by
  simp [items_eq, List.filter_map, Function.comp_def]

theorem Uses.not_rebound {word : String} (reachable : prologue.Reachable)
    (uses : prologue.Uses word) : word ≠ "memset" ∧ startsWith "__builtin_" word = false := by
  cases uses with
  | keyword listed =>
      have others : ∀ word ∈ Text.keywords,
          word ≠ "memset" ∧ startsWith "__builtin_" word = false := by
        decide +kernel
      exact others word listed
  | fixed listed =>
      have others : ∀ word ∈ fixedNames,
          word ≠ "memset" ∧ startsWith "__builtin_" word = false := by
        decide +kernel
      exact others word listed
  | native listed =>
      have others : ∀ word ∈ prologue.toolchain.unreservedWords,
          word ≠ "memset" ∧ startsWith "__builtin_" word = false := by
        cases prologue.toolchain <;> decide
      exact others word listed
  | reference purpose named =>
      rw [named]
      refine ⟨fun same => ?_,
        FunctionRef.nameOf_not_startsWith "__builtin_" (by decide) (by decide) purpose⟩
      have starts := FunctionRef.nameOf_not_startsWith "memset" (by decide) (by decide) purpose
      rw [same] at starts
      exact absurd starts (by decide)
  | allocator same =>
      rw [same]
      exact ⟨prologue.backend.memset_ne_allocator.symm,
        prologue.backend.allocator_free.notGenerated "__builtin_" (by decide)⟩
  | guard guarded =>
      exact ⟨(reachable.guard_accepted guarded).2.1.symm,
        (reachable.guard_free guarded).notGenerated "__builtin_" (by decide)⟩

/-- No word of the text is `memset` or begins like a builtin, and a `#` is only on the three
lines of the guard, if there is one.  One line is no typedef: it declares the allocator, behind
the storage class that keeps its name plain.  That symbol is the one the linker has to supply,
it is not what fills memory, and the primitives are looked up by their own names whatever it
is called. -/
theorem nothing_rebound_and_one_external (reachable : prologue.Reachable) :
    (∀ word, .word word ∈ Source.tokens prologue.text.toList →
      word ≠ "memset" ∧ startsWith "__builtin_" word = false) ∧
    (Text.lines prologue.text).filter (·.toList.contains '#') = prologue.layout.directiveTexts ∧
    (∃ items, Source.declarations? prologue.text.toList = some items ∧
      items.filter (·.storage != "typedef") =
        [⟨"extern", (prologue.backend.symbol .allocate).name, ["void", "u32"]⟩]) ∧
    (Text.lines prologue.text).filter (startsWith "extern") =
      [prologue.dialect.unmangledStorage ++ " void* " ++
        (prologue.backend.symbol .allocate).name ++ "(u32);"] ∧
    prologue.backend.externals = [prologue.backend.symbol .allocate] ∧
    (prologue.backend.symbol .fillMemory).name ≠ (prologue.backend.symbol .allocate).name ∧
    ∀ name, (prologue.backend.symbolFor? name).isSome = true ↔
      name = "memset" ∨ name = "calloc" := by
  refine ⟨fun word listed => (reachable.uses_of_mem listed).not_rebound reachable, ?_,
    ⟨prologue.items, reachable.declares_text.whole, prologue.filter_items⟩, ?_,
    prologue.backend.externals_eq, prologue.backend.symbol_names_ne,
    prologue.backend.symbolFor?_isSome_iff⟩
  · rw [reachable.filter_lines rfl fun row wellSpelled => row.contains_hash _ wellSpelled]
    exact (congrArg _ prologue.layout.filter_isDirective_rows).trans
      prologue.layout.map_text_guardRows
  · rw [reachable.filter_lines rfl fun row _ => row.startsWith_text _]
    exact (congrArg _ prologue.layout.filter_isExternal_rows).trans
      (congrArg List.singleton (prologue.backend.externalText_eq prologue.dialect))

theorem nothing_rebound_and_one_external_guarded :
    let target : Target :=
      { compiler := .gnu 9, allocator := some "GC_malloc", guard := some "PRELUDE_H" }
    ∃ made, target.prologue = .ok made ∧
      let prologue := (made.register { ret := .void }).1
      .word "memset" ∉ Source.tokens prologue.text.toList ∧
      (Text.lines prologue.text).filter (·.toList.contains '#') =
        ["#ifndef PRELUDE_H", "#define PRELUDE_H", "#endif /* PRELUDE_H */"] ∧
      (Text.lines prologue.text).filter (startsWith "extern") =
        ["extern \"C\" void* GC_malloc(u32);"] ∧
      prologue.backend.externals.map (·.name) = ["GC_malloc"] ∧
      (prologue.backend.symbolFor? "GC_malloc").isSome = false := by
  intro target
  let backend : Backend := ⟨.gnu, "GC_malloc", by decide⟩
  have checked : Target.checkGuard backend (some "PRELUDE_H") = .ok () := by decide
  have made : target.prologue = .ok ⟨backend, target.functionRefs, target.layout⟩ :=
    Target.prologue_of_checked (by decide) rfl checked
  obtain ⟨words, directives, _, external, externals, _, lookUp⟩ :=
    nothing_rebound_and_one_external ((Reachable.made made).registered { ret := .void })
  refine ⟨_, made, fun listed => (words "memset" listed).1 rfl, directives.trans ?_,
    external.trans ?_, ?_, ?_⟩
  · change ["#ifndef " ++ "PRELUDE_H", "#define " ++ "PRELUDE_H",
      "#endif /* " ++ "PRELUDE_H" ++ " */"] = _
    decide
  · change [Dialect.unmangledStorage .cxx ++ " void* " ++ "GC_malloc" ++ "(u32);"] = _
    decide
  · rw [externals]
    rfl
  · rw [← Bool.not_eq_true, lookUp]
    decide

end Prologue

end PortableC
