import PortableC.Proofs.Layout.Lines
import PortableC.Proofs.Prologue.Tokens

namespace PortableC

/-! How the text of a prologue is spaced.

A blank line stands behind the lines of the guard and between any two sections that have
something in them, and nowhere else.  Every other line says something up to its end.  So all that
is trimmed off are newlines.
-/

open Text (EndsVisibly Line Palette Separated isWord)

namespace Text

/-- The last character of a word is no blank. -/
theorem endsVisibly_of_isWord {word : List Char} (isWord_word : isWord word = true) :
    EndsVisibly word := by
  cases word using List.reverseRecOn with
  | nil => cases isWord_word
  | append_singleton before last =>
      have part := Source.isIdentifierPart_of_isWord isWord_word last (by simp)
      rw [Text.isIdentifierPart, Bool.or_eq_true, beq_iff_eq] at part
      rcases part with alphanum | rfl
      · exact ⟨before, last, rfl, isBlank_of_isAlphanum alphanum⟩
      · exact ⟨before, '_', rfl, by decide⟩

end Text

namespace Row

variable {row : Row}

theorem written_end (wellSpelled : row.WellSpelled) (filled : row ≠ .blank) (dialect : Dialect)
    (colored : Bool) : EndsVisibly (row.written dialect colored).toList := by
  have directive (keyword : String) {guard : String} (isWord_guard : isWord guard.toList = true) :
      EndsVisibly ((Layout.directive keyword guard).render (Palette.choose colored)).toList :=
    Line.render_end [⟨.keyword, keyword⟩, ⟨.plain, " "⟩] (Text.endsVisibly_of_isWord isWord_guard)
      colored
  cases row with
  | banner toolchain =>
      refine Line.render_end [] ?_ colored
      exact ⟨"/* cprelude prologue: toolchain ".toList ++ toolchain.name.toList ++
        ", dialect ".toList ++ dialect.name.toList ++ " *".toList, '/', by simp, by decide⟩
  | guardTest guard => exact directive "#ifndef" wellSpelled
  | guardDefinition guard => exact directive "#define" wellSpelled
  | guardEnd guard => exact Layout.render_end (.inl ⟨guard, rfl⟩) dialect colored
  | blank => exact absurd rfl filled
  | declaration declared =>
      cases declared with
      | typedef target name =>
          refine Line.render_end [⟨.keyword, "typedef"⟩, ⟨.plain, " " ++ target ++ " "⟩,
            ⟨.name, name⟩] ?_ colored
          exact ⟨[], ';', rfl, by decide⟩
      | pointer name signature =>
          refine Line.render_end [⟨.keyword, "typedef"⟩,
            ⟨.plain, " " ++ signature.ret.spelling ++ " (*"⟩, ⟨.name, name⟩] ?_ colored
          exact ⟨")(".toList ++ (dialect.parameterText signature).toList ++ ")".toList, ';',
            by simp, by decide⟩
      | external name signature =>
          exact Layout.render_end (.inr ⟨name, signature, rfl⟩) dialect colored

end Row

namespace Layout

theorem bodyRows_ne_nil (layout : Layout) (backend : Backend) (refs : FunctionRefs) :
    layout.bodyRows backend refs ≠ [] := by
  rw [bodyRows_eq]
  simp

theorem separated_bodyRows (layout : Layout) (backend : Backend) (refs : FunctionRefs) :
    Separated .blank (layout.bodyRows backend refs) := by
  apply Text.separated_intercalate
  · intro piece listed
    obtain ⟨declarations, isFilled, rfl⟩ := List.mem_map.mp listed
    have filled := (List.mem_filter.mp isFilled).2
    cases declarations with
    | nil => cases filled
    | cons _ _ => exact List.cons_ne_nil _ _
  · intro piece listed
    obtain ⟨declarations, _, rfl⟩ := List.mem_map.mp listed
    simp

/-- Blank rows stand between other rows only. -/
theorem separated_rows (layout : Layout) (backend : Backend) (refs : FunctionRefs) :
    Separated .blank (layout.rows backend refs) := by
  have banner : .blank ∉ layout.bannerRows backend.toolchain := by
    simp only [bannerRows]
    split <;> simp
  have body := layout.separated_bodyRows backend refs
  cases guarded : layout.guard with
  | none =>
      rw [rows, openingRows, closingRows, guarded, List.append_nil, List.append_nil]
      exact (Text.separated_of_not_mem banner).append body
  | some guard =>
      have opening : Separated .blank
          (layout.bannerRows backend.toolchain ++ [.guardTest guard, .guardDefinition guard]) :=
        (Text.separated_of_not_mem banner).append (Text.separated_of_not_mem (by simp))
      have ending : Separated .blank
          (layout.bodyRows backend refs ++ ([.blank] ++ [.guardEnd guard])) :=
        body.join (Text.separated_of_not_mem (by simp)) (layout.bodyRows_ne_nil backend refs)
          (by simp)
      have whole := opening.join ending (by simp) (by simp)
      simpa [rows, openingRows, closingRows, guarded] using whole

variable {layout : Layout} {backend : Backend} {refs : FunctionRefs}

/-- So are blank lines, since every other row has something in it. -/
theorem separated_written (wellSpelled : ∀ row ∈ layout.rows backend refs, row.WellSpelled)
    (colored : Bool) :
    Separated "" ((layout.rows backend refs).map (Row.written layout.dialect colored)) := by
  change Separated (Row.written layout.dialect colored .blank) _
  refine (layout.separated_rows backend refs).map fun row listed same => ?_
  by_contra filled
  obtain ⟨before, last, shown, _⟩ :=
    Row.written_end (wellSpelled row listed) filled layout.dialect colored
  rw [same] at shown
  exact List.cons_ne_nil last [] (List.append_eq_nil_iff.mp shown.symm).2

theorem ends_in_one_newline (layout : Layout) (backend : Backend) (refs : FunctionRefs)
    (colored : Bool) :
    ∃ front, layout.text (Palette.choose colored) backend refs = front ++ "\n" ∧
      EndsVisibly front.toList := by
  obtain ⟨front, last, rows, speaks⟩ := layout.rows_end backend refs
  obtain ⟨before, char, rendered, visible⟩ := render_end speaks layout.dialect colored
  refine ⟨Line.renderAll (Palette.choose colored) (front.map (Row.line layout.dialect)) ++
    (last.line layout.dialect).render (Palette.choose colored), ?_, ?_⟩
  · rw [text_eq_rows, rows]
    simp [Line.renderAll, String.append_assoc]
  · rw [String.toList_append, rendered, ← List.append_assoc]
    exact ⟨_, char, rfl, visible⟩

/-- All that is trimmed off are newlines. -/
theorem renderAll_lines (layout : Layout) (backend : Backend) (refs : FunctionRefs)
    (colored : Bool) :
    let written := Line.renderAll (Palette.choose colored) (layout.lines backend refs)
    written = Text.trimmedEnd written ++ if layout.guard.isNone then "\n\n" else "\n" := by
  intro written
  have newlines : (if layout.guard.isNone then "\n\n" else "\n") =
      "\n" ++ if layout.guard.isNone then "\n" else "" := by
    split <;> rfl
  have rest : written = layout.text (Palette.choose colored) backend refs ++
      if layout.guard.isNone then "\n" else "" := by
    rw [text_eq_rows]
    simp only [written, lines_eq_rows, Line.renderAll, List.map_append, String.join_append]
    cases layout.guard <;> rfl
  rw [newlines, ← String.append_assoc]
  exact rest

/-- The text of a prologue is its rows, each on a line of its own: the banner, the guard and a
blank line, the filled sections with one blank line between any two, a blank line and the end of
the guard. -/
theorem text_spaced (layout : Layout)
    (guardWord : ∀ guard ∈ layout.guard, isWord guard.toList = true) (backend : Backend)
    (handle : Bool) (run : List Registration) (colored : Bool) :
    let refs := (FunctionRefs.initial handle).performAll run
    let palette := Palette.choose colored
    let text := layout.text palette backend refs
    let untrimmed := Line.renderAll palette (layout.lines backend refs)
    text = Line.renderAll palette ((layout.rows backend refs).map (Row.line layout.dialect)) ∧
    Text.lines text = (layout.rows backend refs).map (Row.written layout.dialect colored) ++ [""] ∧
    (∃ front, text = front ++ "\n" ∧ EndsVisibly front.toList) ∧
    ¬ ["", ""] <:+: Text.lines text ∧
    (∀ line ∈ Text.lines text, line = "" ∨ EndsVisibly line.toList) ∧
    untrimmed = Text.trimmedEnd untrimmed ++ if layout.guard.isNone then "\n\n" else "\n" := by
  intro refs palette text untrimmed
  have wellSpelled : ∀ row ∈ layout.rows backend refs, row.WellSpelled := fun row listed =>
    wellSpelled_row ((FunctionRefs.WellFormed.initial handle).performAll run) guardWord listed
  have lines := lines_text_written wellSpelled colored
  refine ⟨layout.text_eq_rows backend refs colored, lines,
    layout.ends_in_one_newline backend refs colored, ?_, ?_,
    layout.renderAll_lines backend refs colored⟩
  · rw [lines]
    exact (separated_written wellSpelled colored).not_infix_concat
  · intro line listed
    rw [lines, List.mem_append, List.mem_singleton] at listed
    rcases listed with written | rfl
    · obtain ⟨row, inRows, rfl⟩ := List.mem_map.mp written
      by_cases blank : row = .blank
      · exact .inl (blank ▸ rfl)
      · exact .inr (Row.written_end (wellSpelled row inRows) blank layout.dialect colored)
    · exact .inl rfl

theorem text_spaced_guarded :
    let layout : Layout := { dialect := .c, guard := some "PRELUDE_H" }
    let backend : Backend := ⟨.msvc, "GC_malloc", by decide⟩
    let refs := (FunctionRefs.initial false).performAll [.typed { ret := .void }, .handle]
    let text := layout.text (Palette.choose false) backend refs
    let untrimmed := Line.renderAll (Palette.choose false) (layout.lines backend refs)
    isWord "PRELUDE_H".toList = true ∧
    (Text.lines text).take 5 = ["/* cprelude prologue: toolchain msvc, dialect c */",
      "#ifndef PRELUDE_H", "#define PRELUDE_H", "", "typedef __int8 int8_t;"] ∧
    (∃ front, text = front ++ "\n" ∧ EndsVisibly front.toList) ∧
    ¬ ["", ""] <:+: Text.lines text ∧ untrimmed = Text.trimmedEnd untrimmed ++ "\n" := by
  intro layout backend refs text untrimmed
  have guardWord : isWord "PRELUDE_H".toList = true := by decide
  obtain ⟨_, lines, ends, apart, _, trimmed⟩ :=
    text_spaced layout (fun _ same => Option.some.inj same ▸ guardWord) backend false
      [.typed { ret := .void }, .handle] false
  refine ⟨guardWord, ?_, ends, apart, trimmed⟩
  rw [lines]
  decide

end Layout

end PortableC
