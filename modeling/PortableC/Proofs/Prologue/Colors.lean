import PortableC.Proofs.Layout.Lines
import PortableC.Proofs.Prologue.Tokens
import PortableC.Proofs.Text.Colors

namespace PortableC

/-! The text of a prologue with colours is its text without them. -/

open Text (Colors ColorsEnd EndsColor Line Palette escape withoutSequences)

namespace Row

theorem visible_text (dialect : Dialect) {row : Row} (wellSpelled : row.WellSpelled) :
    escape ∉ (row.text dialect).toList :=
  (writtenIn_text dialect wellSpelled).not_mem (by decide) (by decide)

end Row

theorem Layout.colors_text {layout : Layout} {backend : Backend} {refs : FunctionRefs}
    (wellSpelled : ∀ row ∈ layout.rows backend refs, row.WellSpelled) :
    Colors (layout.text (Palette.choose true) backend refs).toList
      (layout.text (Palette.choose false) backend refs).toList := by
  rw [text_eq_rows, text_eq_rows]
  refine Colors.renderAll fun line listed => ?_
  obtain ⟨row, inRows, rfl⟩ := List.mem_map.mp listed
  rw [row.render_line]
  exact ⟨row.visible_text layout.dialect (wellSpelled row inRows),
    row.unbroken_text layout.dialect (wellSpelled row inRows)⟩

namespace Prologue

variable {prologue : Prologue}

theorem coloredText_banner (prologue : Prologue) (banner : prologue.layout.banner = true) :
    "\x1b[2m".toList <+: (prologue.coloredText true).toList := by
  rw [coloredText, textWith, Layout.text_eq_rows, Layout.rows, Layout.bannerRows, if_pos banner]
  simp only [List.cons_append, List.map_cons, Row.line, Line.toList_renderAll_cons,
    Line.toList_render_cons, Palette.paint, String.toList_append, List.append_assoc]
  exact List.prefix_append _ _

/-- Without its escape sequences the coloured text is the plain one, which has no escape
character.  Each sequence that begins a colour is followed by the one that ends it, on its line
and before any other sequence. -/
theorem coloring_keeps_text (reachable : prologue.Reachable) :
    withoutSequences (prologue.coloredText true) = prologue.text ∧
      escape ∉ prologue.text.toList ∧ ColorsEnd (prologue.coloredText true).toList := by
  have colors : Colors (prologue.coloredText true).toList prologue.text.toList :=
    Layout.colors_text reachable.wellSpelled_rows
  refine ⟨?_, colors.visible, colors.colorsEnd⟩
  rw [withoutSequences, colors.deleting_eq, String.ofList_toList]

theorem coloring_keeps_text_banner :
    let target : Target := { compiler := .gnu 9, allocator := some "GC_malloc" }
    ∃ made, target.prologue = .ok made ∧
      let prologue := (made.register { ret := .void }).1
      withoutSequences (prologue.coloredText true) = prologue.text ∧
      escape ∉ prologue.text.toList ∧
      ∃ after, (prologue.coloredText true).toList = "\x1b[2m".toList ++ after ∧ EndsColor after := by
  intro target
  let prologue : Prologue :=
    ⟨⟨.gnu, "GC_malloc", by decide⟩, target.functionRefs, target.layout⟩
  have made : target.prologue = .ok prologue := Target.prologue_of_checked (by decide) rfl rfl
  have reachable := (Reachable.made made).registered { ret := .void }
  obtain ⟨kept, visible, ends⟩ := coloring_keeps_text reachable
  obtain ⟨after, cut⟩ := coloredText_banner (prologue.register { ret := .void }).1 rfl
  exact ⟨prologue, made, kept, visible, after, cut.symm,
    ends "\x1b[2m" (by decide) [] after cut.symm⟩

end Prologue

end PortableC
