import PortableC.Proofs.Prologue.Lines
import PortableC.Proofs.Signature.Grammar

namespace PortableC

/-! What the pointer types of a prologue say when they are read again.

A declaration writes a signature with `void` for an empty list, and the reader takes that for
no parameters, so both agree on every list but one: in C a list of `...` alone is left out, and
what is left is read as the signature without it.
-/

namespace Signature

variable {signature : Signature}

theorem framed_of_flat (ret : CType) {inner : String}
    (flat : '(' ∉ inner.toList ∧ ')' ∉ inner.toList) :
    Framed (ret.spelling ++ "(" ++ inner ++ ")") ret.spelling.toList inner.toList where
  opened := by
    have chars : (ret.spelling ++ "(" ++ inner ++ ")").toList =
        ret.spelling.toList ++ '(' :: (inner.toList ++ [')']) := by
      simp
    refine ⟨?_, CType.not_mem_spelling (by decide) (by decide)⟩
    rw [chars, trim_enclosed]
  flat := flat

/-- A list between parentheses that stands for no parameters. -/
theorem parse_no_parameters (ret : CType) (inner : String)
    (flat : '(' ∉ inner.toList ∧ ')' ∉ inner.toList) (listed : Params inner.toList [] false) :
    parse (ret.spelling ++ "(" ++ inner ++ ")") = .ok { ret } := by
  refine parse_of_written (.frame (framed_of_flat ret flat) ?_ ret.parseChars_spelling listed)
  rw [ret.trim_spelling]
  exact ret.spelling_ne_empty

theorem pieces_eq_nil_iff :
    signature.pieces = [] ↔ signature.params = [] ∧ signature.variadic = false := by
  obtain ⟨ret, params, variadic⟩ := signature
  cases variadic <;> simp [pieces]

theorem parameterText_of_empty (empty : signature.pieces = []) :
    signature.parameterText = "void" := by
  rw [parameterText, empty]
  rfl

theorem parameterText_of_filled (filled : signature.pieces ≠ []) :
    signature.parameterText = ", ".intercalate signature.pieces :=
  if_neg (List.isEmpty_iff.not.mpr filled)

/-- A declaration and a spelling differ in how they write the empty list only. -/
theorem parse_parameterText (clean : CType.void ∉ signature.params) :
    parse (signature.ret.spelling ++ "(" ++ signature.parameterText ++ ")") = .ok signature := by
  by_cases empty : signature.pieces = []
  · have single := parse_no_parameters signature.ret "void" (by decide) (.void rfl)
    obtain ⟨noParams, fixed⟩ := pieces_eq_nil_iff.mp empty
    rw [parameterText_of_empty empty, single, ← noParams, ← fixed]
  · rw [parameterText_of_filled empty]
    exact parse_spelling clean

theorem parameterText_eq_void_iff (clean : CType.void ∉ signature.params) :
    signature.parameterText = "void" ↔ signature.params = [] ∧ signature.variadic = false := by
  rw [← pieces_eq_nil_iff]
  refine ⟨fun same => ?_, parameterText_of_empty⟩
  by_contra filled
  have chars := congrArg String.toList ((parameterText_of_filled filled).symm.trans same)
  rw [String.toList_intercalate] at chars
  exact innerChars_ne_void clean chars

theorem parameterText_ne_empty (signature : Signature) : signature.parameterText ≠ "" := by
  cases found : signature.pieces with
  | nil =>
      rw [parameterText_of_empty found]
      decide
  | cons first rest =>
      have listed : first.toList ∈ signature.pieceChars := by
        rw [pieceChars, found]
        exact List.mem_cons_self
      intro same
      rw [parameterText_of_filled (found ▸ List.cons_ne_nil first rest), found] at same
      have chars := congrArg String.toList same
      rw [String.toList_intercalate, List.map_cons, Text.intercalate_cons] at chars
      exact piece_ne_nil listed (List.append_eq_nil_iff.mp chars).1

/-- The text of a list begins with a type, unless `...` is all there is. -/
theorem parameterText_not_ellipsis (filled : signature.variadic = true → signature.params ≠ []) :
    startsWith "..." signature.parameterText = false := by
  obtain ⟨ret, params, variadic⟩ := signature
  cases params with
  | nil =>
      have fixed : variadic = false := Bool.eq_false_iff.mpr fun variadic => filled variadic rfl
      rw [parameterText_of_empty (pieces_eq_nil_iff.mpr ⟨rfl, fixed⟩)]
      decide
  | cons param params =>
      have listed : (⟨ret, param :: params, variadic⟩ : Signature).pieces ≠ [] :=
        fun empty => List.cons_ne_nil _ _ (pieces_eq_nil_iff.mp empty).1
      obtain ⟨first, rest, spelled⟩ := List.exists_cons_of_ne_nil param.spelling_ne_empty
      have notDot : first ≠ '.' := by
        rintro rfl
        have member : '.' ∈ param.spelling.toList := spelled ▸ List.mem_cons_self
        exact CType.not_mem_spelling (by decide) (by decide) member
      rw [parameterText_of_filled listed, startsWith, String.toList_intercalate, pieces,
        List.map_cons, List.cons_append, List.map_cons, Text.intercalate_cons, spelled]
      simp [List.isPrefixOf, notDot.symm]

end Signature

namespace Dialect

variable {dialect : Dialect} {signature : Signature}

theorem parameterText_of_omits (omits : dialect.Omits signature) :
    dialect.parameterText signature = "" := by
  obtain ⟨rfl, variadic, empty⟩ := omits
  rw [parameterText, variadic, empty]
  rfl

theorem parameterText_eq_empty_iff :
    dialect.parameterText signature = "" ↔ dialect.Omits signature := by
  refine ⟨fun empty => ?_, parameterText_of_omits⟩
  by_contra kept
  rw [parameterText_of_not_omits kept] at empty
  exact signature.parameterText_ne_empty empty

theorem parameterText_eq_void_iff (clean : CType.void ∉ signature.params) :
    dialect.parameterText signature = "void" ↔
      signature.params = [] ∧ signature.variadic = false := by
  by_cases omits : dialect.Omits signature
  · rw [parameterText_of_omits omits]
    refine iff_of_false (by decide) fun fixed => ?_
    exact absurd (omits.2.1.symm.trans fixed.2) (by decide)
  · rw [parameterText_of_not_omits omits]
    exact Signature.parameterText_eq_void_iff clean

theorem parameterText_c_not_ellipsis (signature : Signature) :
    startsWith "..." (Dialect.c.parameterText signature) = false := by
  by_cases omits : Dialect.c.Omits signature
  · rw [parameterText_of_omits omits]
    rfl
  · rw [parameterText_of_not_omits omits]
    exact Signature.parameterText_not_ellipsis fun variadic empty => omits ⟨rfl, variadic, empty⟩

/-- What is written is read as the signature, unless the list is omitted. -/
theorem parse_parameterText_iff (clean : CType.void ∉ signature.params) :
    Signature.parse (signature.ret.spelling ++ "(" ++ dialect.parameterText signature ++ ")") =
      .ok signature ↔ ¬ dialect.Omits signature := by
  by_cases omits : dialect.Omits signature
  · rw [parameterText_of_omits omits]
    have single := Signature.parse_no_parameters signature.ret "" (by decide)
      (.nothing rfl)
    refine iff_of_false (fun read => ?_) (not_not_intro omits)
    have same : ({ ret := signature.ret } : Signature) = signature :=
      Except.ok.inj (single.symm.trans read)
    have fixed : signature.variadic = false := by rw [← same]
    exact absurd (omits.2.1.symm.trans fixed) (by decide)
  · rw [parameterText_of_not_omits omits]
    exact iff_of_true (Signature.parse_parameterText clean) omits

end Dialect

/-- A type definition with a parenthesis in it. -/
def Text.definesPointer (line : String) : Bool :=
  startsWith "typedef" line && line.toList.contains '('

namespace Row

def isPointer : Row → Bool
  | .declaration (.pointer _ _) => true
  | _ => false

theorem definesPointer_text (dialect : Dialect) {row : Row} (wellSpelled : row.WellSpelled) :
    Text.definesPointer (row.text dialect) = row.isPointer := by
  cases row with
  | banner toolchain => cases toolchain <;> cases dialect <;> decide +kernel
  | guardTest guard | guardDefinition guard | guardEnd guard =>
      simp [text, isPointer, Text.definesPointer, startsWith, List.isPrefixOf]
  | blank => rfl
  | declaration declared =>
      cases declared with
      | typedef target name =>
          have absent : '(' ∉ (Declaration.text dialect (.typedef target name)).toList :=
            (Declaration.writtenIn_typedef dialect wellSpelled).not_mem (by decide) (by decide)
          simpa [text, isPointer, Text.definesPointer] using fun _ => absent
      | pointer _ _ =>
          simp [text, isPointer, Declaration.text, Text.definesPointer, startsWith,
            List.isPrefixOf]
      | external _ _ =>
          cases dialect <;>
            simp [text, isPointer, Declaration.text, Text.definesPointer, startsWith,
              Dialect.unmangledStorage, List.isPrefixOf]

end Row

theorem Layout.filter_isPointer_rows (layout : Layout) (backend : Backend) (refs : FunctionRefs) :
    (layout.rows backend refs).filter Row.isPointer =
      (Declaration.pointers refs).map .declaration := by
  let pointer (declared : Declaration) : Bool := (Row.declaration declared).isPointer
  have widths : (Declaration.widths backend.toolchain).filter pointer = [] := rfl
  have scalars : (Declaration.scalars layout.dialect).filter pointer = [] := rfl
  have pointers : (Declaration.pointers refs).filter pointer = Declaration.pointers refs := by
    simp [Declaration.pointers, pointer, Row.isPointer]
  have onlyDeclared (row : Row) (undeclared : row.declared? = none) : row.isPointer = false := by
    cases row with
    | declaration _ => cases undeclared
    | banner _ | guardTest _ | guardDefinition _ | guardEnd _ | blank => rfl
  rw [filter_rows_declared layout backend refs onlyDeclared, declarations_eq, List.filter_append,
    List.filter_append, List.filter_append, widths, scalars, pointers]
  simp [Row.isPointer]

namespace Prologue

variable {prologue : Prologue}

open Text (definesPointer)

theorem filter_definesPointer_lines (reachable : prologue.Reachable) :
    (Text.lines prologue.text).filter definesPointer =
      prologue.functionRefs.list.map prologue.dialect.pointerLine := by
  rw [reachable.filter_lines rfl fun row wellSpelled => row.definesPointer_text _ wellSpelled, rows,
    Layout.filter_isPointer_rows, Declaration.pointers, List.map_map, List.map_map]
  rfl

/-- The pointer types stand in the text one on a line, in the order of the references.  What a
line says of its reference is read as the signature of the reference, unless some parameter is
`void` itself, which no signature that was read has and the handle has not.  The one exception
is a list of `...` alone in C, where nothing stands between the parentheses.  Otherwise no list
in C begins with `...`, and `void` is what stands for no parameters and for nothing else. -/
theorem pointer_lines_denote_signatures (reachable : prologue.Reachable) :
    let refs := prologue.functionRefs.list
    let parameters (ref : FunctionRef) := prologue.dialect.parameterText ref.signature
    (Text.lines prologue.text).filter definesPointer =
      refs.map (fun ref => "typedef " ++ ref.signature.ret.spelling ++ " (*" ++ ref.name ++ ")(" ++
        parameters ref ++ ");") ∧
    (∀ ref ∈ refs, CType.void ∉ ref.signature.params →
      let omitted := prologue.dialect = .c ∧ ref.signature.variadic = true ∧
        ref.signature.params = []
      (Signature.parse (ref.signature.ret.spelling ++ "(" ++ parameters ref ++ ")") =
        .ok ref.signature ↔ ¬ omitted) ∧
      (parameters ref = "" ↔ omitted) ∧
      (parameters ref = "void" ↔ ref.signature.params = [] ∧ ref.signature.variadic = false)) ∧
    (∀ ref ∈ refs, prologue.dialect = .c → startsWith "..." (parameters ref) = false) ∧
    (∀ ref ∈ refs, ref.kind = .handle → CType.void ∉ ref.signature.params) ∧
    ∀ text signature, Signature.parse text = .ok signature → CType.void ∉ signature.params := by
  intro refs parameters
  refine ⟨filter_definesPointer_lines reachable, fun ref _ clean => ?_, fun ref _ inC => ?_,
    fun ref listed handle => ?_, fun text signature => Signature.parse_no_void⟩
  · exact ⟨Dialect.parse_parameterText_iff clean, Dialect.parameterText_eq_empty_iff,
      Dialect.parameterText_eq_void_iff clean⟩
  · simp only [parameters, inC]
    exact Dialect.parameterText_c_not_ellipsis ref.signature
  · rw [reachable.functionRefs_wellFormed.handleSigned ref listed handle]
    decide

/-- In C the handle is the reference whose list is left out. -/
theorem pointer_lines_denote_signatures_handle :
    let target : Target :=
      { compiler := .msvc, dialect := .c, allocator := some "GC_malloc" }
    let plain : Signature := { ret := .voidPointer }
    let printing : Signature := { ret := .int .i32, params := [⟨.void, 2⟩], variadic := true }
    ∃ made, target.prologue = .ok made ∧
      let prologue := ((made.register plain).1.register printing).1
      (Text.lines prologue.text).filter definesPointer =
        ["typedef i32 (*anyFn)();", "typedef void* (*fn_voidp)(void);",
          "typedef i32 (*fn_i32_voidpp_va)(void**, ...);"] ∧
      Signature.parse "i32()" ≠ .ok FunctionRefs.handleSignature ∧
      Signature.parse "void*(void)" = .ok plain ∧
      Signature.parse "i32(void**, ...)" = .ok printing := by
  intro target plain printing
  have made : target.prologue =
      .ok ⟨⟨.msvc, "GC_malloc", by decide⟩, target.functionRefs, target.layout⟩ :=
    Target.prologue_of_checked (by decide) rfl rfl
  have reachable := ((Reachable.made made).registered plain).registered printing
  obtain ⟨lines, denoted, _, handleClean, _⟩ := pointer_lines_denote_signatures reachable
  have handleRead := denoted ⟨0, handleName, FunctionRefs.handleSignature, .handle⟩ (by decide)
    (handleClean _ (by decide) rfl)
  have plainRead := denoted ⟨1, "fn_voidp", plain, .typed⟩ (by decide) (by decide)
  have printingRead := denoted ⟨2, "fn_i32_voidpp_va", printing, .typed⟩ (by decide) (by decide)
  refine ⟨_, made, lines.trans (by decide +kernel), fun read => ?_, plainRead.1.mpr (by decide),
    printingRead.1.mpr (by decide)⟩
  exact handleRead.1.mp read ⟨rfl, rfl, rfl⟩

end Prologue

end PortableC
