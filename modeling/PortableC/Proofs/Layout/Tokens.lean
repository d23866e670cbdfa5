import PortableC.Proofs.Declaration.Items
import PortableC.Proofs.Layout.Rows

namespace PortableC

/-! The tokens of the rows of a prologue. -/

open Source (IsPlain Readings ReadsLine Token)
open Text (isWord Line Palette)

namespace Row

def tokens (dialect : Dialect) : Row → List Token
  | .banner _ => []
  | .guardTest guard => [.directive "#ifndef", .word guard]
  | .guardDefinition guard => [.directive "#define", .word guard]
  | .guardEnd _ => [.directive "#endif"]
  | .blank => []
  | .declaration declared => declared.tokens dialect

def WellSpelled : Row → Prop
  | .guardTest guard | .guardDefinition guard | .guardEnd guard => isWord guard.toList = true
  | .declaration declared => declared.WellSpelled
  | .banner _ | .blank => True

theorem readsLine_directive {keyword guard : String} (isWord_guard : isWord guard.toList = true)
    (closed : Source.run .between (keyword.toList ++ [' ']) = ([.directive keyword], .between)) :
    ReadsLine ((Layout.directive keyword guard).render Palette.uncolored).toList
      [.directive keyword, .word guard] := by
  intro rest
  have chars : ((Layout.directive keyword guard).render Palette.uncolored).toList ++
      '\n' :: rest = (keyword.toList ++ [' ']) ++ (guard.toList ++ '\n' :: rest) := by
    simp [Layout.directive, Line.render]
  rw [chars, Source.tokens_append closed, Source.tokens_word isWord_guard (by decide),
    Source.tokens_newline]
  rfl

theorem readsLine_guardEnd {guard : String} (isWord_guard : isWord guard.toList = true)
    (dialect : Dialect) :
    ReadsLine (((Row.guardEnd guard).line dialect).render Palette.uncolored).toList
      [.directive "#endif"] := by
  intro rest
  have noStar : '*' ∉ guard.toList := fun member =>
    absurd (Source.isIdentifierPart_of_isWord isWord_guard '*' member) (by decide)
  have opened : Source.run .between "#endif /* ".toList =
      ([.directive "#endif"], .comment false) := by decide
  have chars : (((Row.guardEnd guard).line dialect).render Palette.uncolored).toList ++
      '\n' :: rest =
        "#endif /* ".toList ++ (guard.toList ++ (' ' :: '*' :: '/' :: '\n' :: rest)) := by
    simp [line, Line.render]
  rw [chars, Source.tokens, Source.scan_append, opened, Source.scan_comment noStar]
  rfl

theorem readsLine {dialect : Dialect} {row : Row} (wellSpelled : row.WellSpelled) :
    ReadsLine ((row.line dialect).render Palette.uncolored).toList (row.tokens dialect) := by
  cases row with
  | banner toolchain =>
      apply Source.readsLine_of_run
      cases toolchain <;> cases dialect <;> decide
  | guardTest guard => exact readsLine_directive wellSpelled (by decide)
  | guardDefinition guard => exact readsLine_directive wellSpelled (by decide)
  | guardEnd guard => exact readsLine_guardEnd wellSpelled dialect
  | blank => exact fun _ => rfl
  | declaration declared => exact declared.readsLine wellSpelled

/-- Rows as they are written without colours, with the tokens of each. -/
def readings (dialect : Dialect) (rows : List Row) : Readings :=
  rows.map fun row => ((row.line dialect).render Palette.uncolored, row.tokens dialect)

theorem text_readings (dialect : Dialect) (rows : List Row) :
    (readings dialect rows).text =
      Line.renderAll Palette.uncolored (rows.map (Row.line dialect)) := by
  simp only [readings, Readings.text, Line.renderAll, List.map_map]
  rfl

theorem faithful_readings {dialect : Dialect} {rows : List Row}
    (wellSpelled : ∀ row ∈ rows, row.WellSpelled) : (readings dialect rows).Faithful := by
  intro reading listed
  obtain ⟨row, inRows, rfl⟩ := List.mem_map.mp listed
  exact readsLine (wellSpelled row inRows)

theorem isPlain_tokens (dialect : Dialect) (row : Row) : IsPlain (row.tokens dialect) := by
  cases row with
  | declaration declared => exact declared.isPlain_tokens dialect
  | banner _ | guardTest _ | guardDefinition _ | guardEnd _ | blank => simp [tokens]

theorem flatMap_declarationLines (dialect : Dialect) (rows : List Row) :
    (rows.flatMap fun row => Source.declarationLines (row.tokens dialect)) =
      (rows.filterMap Row.declared?).map (Declaration.tokens dialect) := by
  induction rows with
  | nil => rfl
  | cons row rows induction =>
      rw [List.flatMap_cons, induction, Source.declarationLines_plain (row.isPlain_tokens dialect)]
      cases row with
      | declaration declared =>
          have isDeclaration : Source.isDeclarationLine (declared.tokens dialect) = true := by
            cases declared <;> cases dialect <;> rfl
          simp [tokens, declared?, isDeclaration]
      | banner _ | guardTest _ | guardDefinition _ | guardEnd _ | blank => rfl

end Row

namespace Layout

variable {backend : Backend} {refs : FunctionRefs} {word : String}

def guardLines (layout : Layout) : List (List Token) :=
  match layout.guard with
  | none => []
  | some guard => [[.directive "#ifndef", .word guard], [.directive "#define", .word guard]]

theorem filter_bodyRows (layout : Layout) (dialect : Dialect) :
    ((layout.bodyRows backend refs).map (Row.tokens dialect)).filter (·.contains (.word word)) =
      ((layout.declarations backend refs).map (Declaration.tokens dialect)).filter
        (·.contains (.word word)) := by
  have onlyDeclared : ∀ row ∈ layout.bodyRows backend refs, row.declared? = none →
      (row.tokens dialect).contains (.word word) = false := by
    intro row listed undeclared
    rcases mem_bodyRows listed with rfl | ⟨declared, _, rfl⟩
    · rfl
    · cases undeclared
  rw [List.filter_map, List.filter_map, ← filterMap_bodyRows]
  refine (congrArg _ (Row.filter_of_declared onlyDeclared)).trans ?_
  rw [List.map_map]
  rfl

theorem filter_rows (layout : Layout) (dialect : Dialect) :
    ((layout.rows backend refs).map (Row.tokens dialect)).filter (·.contains (.word word)) =
      layout.guardLines.filter (·.contains (.word word)) ++
        ((layout.declarations backend refs).map (Declaration.tokens dialect)).filter
          (·.contains (.word word)) := by
  have banner : ((layout.bannerRows backend.toolchain).map (Row.tokens dialect)).filter
      (·.contains (.word word)) = [] := by
    simp only [bannerRows]
    split <;> rfl
  have opening : (layout.openingRows.map (Row.tokens dialect)).filter (·.contains (.word word)) =
      layout.guardLines.filter (·.contains (.word word)) := by
    cases guarded : layout.guard with
    | none => simp only [openingRows, guardLines, guarded, List.map_nil]
    | some guard => simp [openingRows, guardLines, guarded, Row.tokens, List.filter_cons]
  have closing : (layout.closingRows.map (Row.tokens dialect)).filter (·.contains (.word word)) =
      [] := by
    simp only [closingRows]
    split <;> rfl
  simp only [rows, List.map_append, List.filter_append, banner, opening, closing, filter_bodyRows,
    List.nil_append, List.append_nil]

end Layout

end PortableC
