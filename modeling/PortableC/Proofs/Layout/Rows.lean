import Mathlib.Data.List.Basic
import PortableC.Layout
import PortableC.Proofs.Text.Joined
import PortableC.Proofs.Text.Trim

namespace PortableC

/-! The text of a prologue row by row.

What is written ends in as many blank lines as come about, and all but one newline
are trimmed off.  The rows are the lines that are left, each with the reason why it
is there.
-/

open Text (EndsVisibly Line Palette)

inductive Row where
  | banner (toolchain : Toolchain)
  | guardTest (guard : String)
  | guardDefinition (guard : String)
  | guardEnd (guard : String)
  | blank
  | declaration (declaration : Declaration)
deriving DecidableEq, Repr

namespace Row

def line (dialect : Dialect) : Row → Line
  | .banner toolchain =>
      [⟨.comment, "/* cprelude prologue: toolchain " ++ toolchain.name ++ ", dialect " ++
        dialect.name ++ " */"⟩]
  | .guardTest guard => Layout.directive "#ifndef" guard
  | .guardDefinition guard => Layout.directive "#define" guard
  | .guardEnd guard =>
      [⟨.keyword, "#endif"⟩, ⟨.plain, " "⟩, ⟨.comment, "/* " ++ guard ++ " */"⟩]
  | .blank => Layout.blankLine
  | .declaration declared => declared.line dialect

def declared? : Row → Option Declaration
  | .declaration declared => some declared
  | _ => none

/-- Where a choice leaves out every other row, what it keeps are the declarations it keeps. -/
theorem filter_of_declared {keep : Row → Bool} {rows : List Row}
    (only : ∀ row ∈ rows, row.declared? = none → keep row = false) :
    rows.filter keep =
      ((rows.filterMap declared?).filter fun declared => keep (.declaration declared)).map
        .declaration := by
  induction rows with
  | nil => rfl
  | cons row rows induction =>
      have others := induction fun row member => only row (List.mem_cons_of_mem _ member)
      have first := only row List.mem_cons_self
      cases row with
      | declaration declared =>
          change _ = ((declared :: rows.filterMap declared?).filter _).map _
          rw [List.filter_cons, List.filter_cons, others]
          split <;> rfl
      | banner _ | guardTest _ | guardDefinition _ | guardEnd _ | blank =>
          rw [List.filter_cons, first rfl]
          exact others

end Row

namespace Text

theorem Palette.paint_end (role : Role) {text : String} (ends : EndsVisibly text.toList)
    (colored : Bool) : EndsVisibly ((Palette.choose colored).paint role text).toList := by
  cases colored with
  | false =>
      rw [show Palette.choose false = Palette.uncolored from rfl, paint_uncolored]
      exact ends
  | true =>
      have closed (opening : String) : EndsVisibly (opening ++ text ++ "\x1b[0m").toList :=
        ⟨opening.toList ++ text.toList ++ "\x1b[0".toList, 'm', by simp, by decide⟩
      cases role with
      | plain => exact ends
      | keyword | name | comment => exact closed _

/-- A line ends like its last span, or in the sequence behind it. -/
theorem Line.render_end (front : Line) {last : Span} (ends : EndsVisibly last.text.toList)
    (colored : Bool) :
    EndsVisibly (Line.render (Palette.choose colored) (front ++ [last])).toList := by
  obtain ⟨before, char, same, visible⟩ := Palette.paint_end last.role ends colored
  refine ⟨(front.render (Palette.choose colored)).toList ++ before, char, ?_, visible⟩
  simp [Line.render, same]

end Text

theorem Backend.externals_eq (backend : Backend) :
    backend.externals = [backend.symbol .allocate] := by
  obtain ⟨toolchain, allocator, accepted⟩ := backend
  cases toolchain <;> rfl

namespace Layout

variable {layout : Layout} {backend : Backend} {refs : FunctionRefs}

def bannerRows (layout : Layout) (toolchain : Toolchain) : List Row :=
  if layout.banner then [.banner toolchain] else []

def openingRows (layout : Layout) : List Row :=
  match layout.guard with
  | none => []
  | some guard => [.guardTest guard, .guardDefinition guard, .blank]

def closingRows (layout : Layout) : List Row :=
  match layout.guard with
  | none => []
  | some guard => [.blank, .guardEnd guard]

def filledSections (layout : Layout) (backend : Backend) (refs : FunctionRefs) :
    List (List Declaration) :=
  (Declaration.sections backend refs layout.dialect).filter fun section_ => !section_.isEmpty

/-- The filled sections, with one blank line between any two. -/
def bodyRows (layout : Layout) (backend : Backend) (refs : FunctionRefs) : List Row :=
  [.blank].intercalate ((layout.filledSections backend refs).map
    fun declarations => declarations.map .declaration)

def rows (layout : Layout) (backend : Backend) (refs : FunctionRefs) : List Row :=
  layout.bannerRows backend.toolchain ++ layout.openingRows ++ layout.bodyRows backend refs ++
    layout.closingRows

theorem externals_eq (backend : Backend) :
    Declaration.externals backend = [.external backend.allocator Primitive.allocate.signature] := by
  rw [Declaration.externals, backend.externals_eq]
  rfl

/-- Only the section of pointer types can be empty. -/
theorem filledSections_eq (layout : Layout) (backend : Backend) (refs : FunctionRefs) :
    layout.filledSections backend refs =
      [Declaration.widths backend.toolchain, Declaration.scalars layout.dialect] ++
        (if refs.list.isEmpty then [] else [Declaration.pointers refs]) ++
        [Declaration.externals backend] := by
  have widths : (Declaration.widths backend.toolchain).isEmpty = false := rfl
  have scalars : (Declaration.scalars layout.dialect).isEmpty = false := rfl
  have pointers : (Declaration.pointers refs).isEmpty = refs.list.isEmpty :=
    List.isEmpty_map
  have externals : (Declaration.externals backend).isEmpty = false := by rw [externals_eq]; rfl
  simp only [filledSections, Declaration.sections, List.filter_cons, widths, scalars, pointers,
    externals, List.filter_nil, Bool.not_false, ↓reduceIte]
  cases refs.list.isEmpty <;> rfl

theorem bodyRows_eq (layout : Layout) (backend : Backend) (refs : FunctionRefs) :
    layout.bodyRows backend refs =
      (Declaration.widths backend.toolchain).map Row.declaration ++
        .blank :: (Declaration.scalars layout.dialect).map Row.declaration ++
        (if refs.list.isEmpty then []
          else .blank :: (Declaration.pointers refs).map Row.declaration) ++
        [.blank, .declaration (.external backend.allocator Primitive.allocate.signature)] := by
  rw [bodyRows, filledSections_eq, externals_eq]
  simp only [List.map_append, List.map_cons, List.map_nil, List.cons_append, List.nil_append,
    Text.intercalate_cons, List.flatMap_cons, List.flatMap_append, List.flatMap_nil]
  cases refs.list.isEmpty <;> simp

theorem flatMap_sectionLines (layout : Layout) (sections : List (List Declaration)) :
    sections.flatMap layout.sectionLines =
      (sections.filter (!·.isEmpty)).flatMap fun declarations =>
        declarations.map (Declaration.line layout.dialect) ++ [blankLine] := by
  induction sections with
  | nil => rfl
  | cons declarations rest induction =>
      rw [List.flatMap_cons, induction]
      cases declarations <;> rfl

theorem sections_eq_rows (layout : Layout) (backend : Backend) (refs : FunctionRefs) :
    (Declaration.sections backend refs layout.dialect).flatMap layout.sectionLines =
      (layout.bodyRows backend refs).map (Row.line layout.dialect) ++ [blankLine] := by
  have filled : (layout.filledSections backend refs).map
      (fun declarations => declarations.map Row.declaration) ≠ [] := by
    rw [filledSections_eq]
    simp
  have separated := congrArg (List.map (Row.line layout.dialect))
    (Text.flatMap_append_separator [Row.blank] filled)
  rw [List.map_append] at separated
  change _ = _ ++ List.map (Row.line layout.dialect) [Row.blank]
  rw [flatMap_sectionLines, bodyRows, ← separated, List.map_flatMap, List.flatMap_map,
    filledSections]
  congr 1
  funext declarations
  simp [Row.line]

/-- The lines are the rows, and an unguarded text has one more blank line. -/
theorem lines_eq_rows (layout : Layout) (backend : Backend) (refs : FunctionRefs) :
    layout.lines backend refs =
      (layout.rows backend refs).map (Row.line layout.dialect) ++
        if layout.guard.isNone then [blankLine] else [] := by
  have banner : layout.bannerLines backend.toolchain =
      (layout.bannerRows backend.toolchain).map (Row.line layout.dialect) := by
    simp only [bannerLines, bannerRows]
    split <;> rfl
  have opening : layout.openingLines = layout.openingRows.map (Row.line layout.dialect) := by
    simp only [openingLines, openingRows]
    cases layout.guard <;> rfl
  have closing : [blankLine] ++ layout.closingLines =
      layout.closingRows.map (Row.line layout.dialect) ++
        if layout.guard.isNone then [blankLine] else [] := by
    simp only [closingLines, closingRows]
    cases layout.guard <;> rfl
  simp only [lines, rows, List.map_append, banner, opening, sections_eq_rows,
    List.append_assoc, closing]

def declarations (layout : Layout) (backend : Backend) (refs : FunctionRefs) : List Declaration :=
  (Declaration.sections backend refs layout.dialect).flatten

theorem declarations_eq (layout : Layout) (backend : Backend) (refs : FunctionRefs) :
    layout.declarations backend refs =
      Declaration.widths backend.toolchain ++ Declaration.scalars layout.dialect ++
        Declaration.pointers refs ++
        [Declaration.external backend.allocator Primitive.allocate.signature] := by
  simp [declarations, Declaration.sections, externals_eq]

theorem filterMap_declared?_sections (sections : List (List Declaration)) :
    ([Row.blank].intercalate (sections.map fun declarations =>
      declarations.map Row.declaration)).filterMap Row.declared? = sections.flatten := by
  have declared (declarations : List Declaration) :
      (declarations.map Row.declaration).filterMap Row.declared? = declarations := by
    rw [List.filterMap_map]
    exact List.filterMap_some
  have separated (declarations : List Declaration) :
      ([Row.blank] ++ declarations.map Row.declaration).filterMap Row.declared? = declarations := by
    rw [List.filterMap_append, declared]
    rfl
  cases sections with
  | nil => rfl
  | cons first rest =>
      rw [List.map_cons, Text.intercalate_cons, List.filterMap_append, declared, List.flatMap_map,
        List.filterMap_flatMap]
      simp only [separated, List.flatten_cons]
      rw [List.flatMap_id']

theorem filterMap_bodyRows (layout : Layout) (backend : Backend) (refs : FunctionRefs) :
    (layout.bodyRows backend refs).filterMap Row.declared? = layout.declarations backend refs := by
  rw [bodyRows, filterMap_declared?_sections, filledSections, List.flatten_filter_not_isEmpty,
    declarations]

theorem filterMap_declared?_rows (layout : Layout) (backend : Backend) (refs : FunctionRefs) :
    (layout.rows backend refs).filterMap Row.declared? = layout.declarations backend refs := by
  have banner : (layout.bannerRows backend.toolchain).filterMap Row.declared? = [] := by
    simp only [bannerRows]
    split <;> rfl
  have opening : layout.openingRows.filterMap Row.declared? = [] := by
    simp only [openingRows]
    split <;> rfl
  have closing : layout.closingRows.filterMap Row.declared? = [] := by
    simp only [closingRows]
    split <;> rfl
  simp only [rows, List.filterMap_append, banner, opening, closing, filterMap_bodyRows,
    List.nil_append, List.append_nil]

theorem filter_rows_declared (layout : Layout) (backend : Backend) (refs : FunctionRefs)
    {keep : Row → Bool} (only : ∀ row : Row, row.declared? = none → keep row = false) :
    (layout.rows backend refs).filter keep =
      ((layout.declarations backend refs).filter fun declared => keep (.declaration declared)).map
        .declaration := by
  rw [Row.filter_of_declared fun row _ => only row, filterMap_declared?_rows]

theorem mem_bodyRows {row : Row} (listed : row ∈ layout.bodyRows backend refs) :
    row = .blank ∨ ∃ declared ∈ layout.declarations backend refs, row = .declaration declared := by
  rcases Text.mem_intercalate listed with blank | ⟨declarations, filled, inDeclarations⟩
  · exact .inl (List.mem_singleton.mp blank)
  · obtain ⟨_, _, rfl⟩ := List.mem_map.mp filled
    obtain ⟨declared, _, rfl⟩ := List.mem_map.mp inDeclarations
    refine .inr ⟨declared, ?_, rfl⟩
    rw [← filterMap_bodyRows]
    exact List.mem_filterMap.mpr ⟨_, listed, rfl⟩

theorem mem_rows {row : Row} (listed : row ∈ layout.rows backend refs) :
    row = .banner backend.toolchain ∨ row = .blank ∨
      (∃ guard, layout.guard = some guard ∧
        (row = .guardTest guard ∨ row = .guardDefinition guard ∨ row = .guardEnd guard)) ∨
      ∃ declared ∈ layout.declarations backend refs, row = .declaration declared := by
  simp only [rows, List.mem_append, or_assoc] at listed
  rcases listed with inBanner | inOpening | inBody | inClosing
  · simp only [bannerRows] at inBanner
    split at inBanner
    · exact .inl (List.mem_singleton.mp inBanner)
    · simp at inBanner
  · simp only [openingRows] at inOpening
    split at inOpening
    · simp at inOpening
    · rename_i guard guarded
      simp only [List.mem_cons, List.not_mem_nil, or_false] at inOpening
      rcases inOpening with test | definition | blank
      · exact .inr (.inr (.inl ⟨guard, guarded, .inl test⟩))
      · exact .inr (.inr (.inl ⟨guard, guarded, .inr (.inl definition)⟩))
      · exact .inr (.inl blank)
  · rcases mem_bodyRows inBody with blank | declared
    · exact .inr (.inl blank)
    · exact .inr (.inr (.inr declared))
  · simp only [closingRows] at inClosing
    split at inClosing
    · simp at inClosing
    · rename_i guard guarded
      simp only [List.mem_cons, List.not_mem_nil, or_false] at inClosing
      rcases inClosing with blank | ending
      · exact .inr (.inl blank)
      · exact .inr (.inr (.inl ⟨guard, guarded, .inr (.inr ending)⟩))

theorem rows_end (layout : Layout) (backend : Backend) (refs : FunctionRefs) :
    ∃ front last, layout.rows backend refs = front ++ [last] ∧
      ((∃ guard, last = .guardEnd guard) ∨
        ∃ name signature, last = .declaration (.external name signature)) := by
  cases guarded : layout.guard with
  | some guard =>
      refine ⟨layout.bannerRows backend.toolchain ++ layout.openingRows ++
        layout.bodyRows backend refs ++ [Row.blank],
        .guardEnd guard, ?_, .inl ⟨guard, rfl⟩⟩
      simp [rows, closingRows, guarded]
  | none =>
      obtain ⟨before, joined⟩ := Text.intercalate_concat [Row.blank]
        (([Declaration.widths backend.toolchain, Declaration.scalars layout.dialect] ++
          if refs.list.isEmpty then [] else [Declaration.pointers refs]).map
            fun declarations => declarations.map Row.declaration)
        [.declaration (.external backend.allocator Primitive.allocate.signature)]
      refine ⟨layout.bannerRows backend.toolchain ++ layout.openingRows ++ before,
        .declaration (.external backend.allocator Primitive.allocate.signature), ?_,
        .inr ⟨_, _, rfl⟩⟩
      have sections : (layout.filledSections backend refs).map
          (fun declarations => declarations.map Row.declaration) =
          (([Declaration.widths backend.toolchain, Declaration.scalars layout.dialect] ++
            if refs.list.isEmpty then [] else [Declaration.pointers refs]).map
              fun declarations => declarations.map Row.declaration) ++
          [[.declaration (.external backend.allocator Primitive.allocate.signature)]] := by
        rw [filledSections_eq, List.map_append, externals_eq]
        rfl
      simp only [rows, bodyRows, closingRows, guarded, sections, joined, List.append_nil,
        List.append_assoc]

/-- No such row ends in a blank, not even with the colours around its words. -/
theorem render_end {row : Row}
    (speaks : (∃ guard, row = .guardEnd guard) ∨
      ∃ name signature, row = .declaration (.external name signature)) (dialect : Dialect)
    (colored : Bool) :
    EndsVisibly ((row.line dialect).render (Palette.choose colored)).toList := by
  rcases speaks with ⟨guard, rfl⟩ | ⟨name, signature, rfl⟩
  · refine Line.render_end [⟨.keyword, "#endif"⟩, ⟨.plain, " "⟩] ?_ colored
    exact ⟨"/* ".toList ++ guard.toList ++ " *".toList, '/', by simp, by decide⟩
  · refine Line.render_end [⟨.keyword, dialect.unmangledStorage⟩,
      ⟨.plain, " " ++ signature.ret.spelling ++ " "⟩, ⟨.name, name⟩] ?_ colored
    exact ⟨"(".toList ++ signature.parameterText.toList ++ ")".toList, ';', by simp, by decide⟩

/-- The text is its rows, one on each line. -/
theorem text_eq_rows (layout : Layout) (backend : Backend) (refs : FunctionRefs)
    (colored : Bool) :
    layout.text (Palette.choose colored) backend refs =
      Line.renderAll (Palette.choose colored)
        ((layout.rows backend refs).map (Row.line layout.dialect)) := by
  obtain ⟨front, last, rows, speaks⟩ := layout.rows_end backend refs
  obtain ⟨before, char, rendered, visible⟩ :=
    render_end speaks layout.dialect colored
  let palette := Palette.choose colored
  let written := (Line.renderAll palette (front.map (Row.line layout.dialect))).toList ++ before
  have kept : (Line.renderAll palette ((layout.rows backend refs).map
      (Row.line layout.dialect))).toList = written ++ char :: ['\n'] := by
    simp [rows, Line.renderAll, rendered, written, palette]
  have lines : ∃ blanks, (Line.renderAll palette (layout.lines backend refs)).toList =
      written ++ char :: blanks ∧ ∀ char ∈ blanks, Text.isBlank char = true := by
    have split : (Line.renderAll palette (layout.lines backend refs)).toList =
        (written ++ char :: ['\n']) ++
          (Line.renderAll palette (if layout.guard.isNone then [blankLine] else [])).toList := by
      rw [← kept, ← String.toList_append, lines_eq_rows, Line.renderAll, List.map_append,
        String.join_append]
      rfl
    cases guarded : layout.guard with
    | none =>
        refine ⟨['\n', '\n'], ?_, List.all_eq_true.mp (by decide)⟩
        simpa [guarded, Line.renderAll, Line.render, blankLine] using split
    | some guard =>
        refine ⟨['\n'], ?_, List.all_eq_true.mp (by decide)⟩
        simpa [guarded, Line.renderAll] using split
  obtain ⟨blanks, lines, allBlank⟩ := lines
  apply String.toList_inj.mp
  rw [kept, text, String.toList_append, Text.toList_trimmedEnd, lines,
    Text.trimEnd_blanks visible allBlank]
  simp

end Layout

end PortableC
