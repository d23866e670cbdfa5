import PortableC.Proofs.Layout.Tokens
import PortableC.Proofs.Text.Alphabet
import PortableC.Proofs.Text.Colors
import PortableC.Proofs.Text.Lines

namespace PortableC

/-! The rows of a prologue as they are written, with and without colours, each on one line. -/

open Text (Line Palette Unbroken WrittenIn isWord)

theorem Text.Line.render_single (role : Text.Role) (text : String) :
    Line.render Palette.uncolored [⟨role, text⟩] = text := by
  simp [Line.render]

theorem Text.Palette.unbroken_paint (role : Role) {text : String} (unbroken : Unbroken text)
    (colored : Bool) : Unbroken ((Palette.choose colored).paint role text) := by
  have sequences : Unbroken (Palette.choose colored).keyword ∧
      Unbroken (Palette.choose colored).name ∧ Unbroken (Palette.choose colored).comment ∧
      Unbroken (Palette.choose colored).reset := by
    cases colored <;> decide
  obtain ⟨keyword, name, comment, reset⟩ := sequences
  rw [Unbroken] at *
  cases role <;> simp_all [Palette.paint]

theorem Text.Line.unbroken_render {line : Line}
    (unbroken : Unbroken (line.render Palette.uncolored)) (colored : Bool) :
    Unbroken (line.render (Palette.choose colored)) := by
  induction line with
  | nil => exact List.not_mem_nil
  | cons span line induction =>
      simp only [Unbroken, Line.toList_render_cons, Palette.paint_uncolored, List.mem_append,
        not_or] at unbroken ⊢
      exact ⟨Palette.unbroken_paint span.role unbroken.1 colored, induction unbroken.2⟩

/-- The characters of declarations that are no part of a word. -/
def Declaration.signs : List Char :=
  [' ', '*', ',', '.', '(', ')', ';', '"']

theorem Text.writtenIn_of_isWord {word : String} (isWord_word : isWord word.toList = true)
    (signs : List Char) : WrittenIn signs word :=
  fun char member => .inl (Source.isIdentifierPart_of_isWord isWord_word char member)

theorem CType.writtenIn_spelling (type : CType) : WrittenIn Declaration.signs type.spelling := by
  intro char member
  rcases spelling_char member with alphanum | rfl
  · exact .inl (by simp [Text.isIdentifierPart, alphanum])
  · decide

theorem Signature.writtenIn_parameterText (signature : Signature) :
    WrittenIn Declaration.signs signature.parameterText := by
  rw [parameterText]
  split
  · decide
  · rw [WrittenIn, String.toList_intercalate]
    intro char member
    rcases innerChars_char member with rfl | rfl | ⟨piece, listed, inPiece⟩
    · decide
    · decide
    · rcases piece_char listed inPiece with alphanum | rfl | rfl
      · exact .inl (by simp [Text.isIdentifierPart, alphanum])
      · decide
      · decide

theorem Dialect.writtenIn_parameterText (dialect : Dialect) (signature : Signature) :
    WrittenIn Declaration.signs (dialect.parameterText signature) := by
  rw [parameterText]
  split
  · decide
  · exact signature.writtenIn_parameterText

theorem Dialect.writtenIn_unmangledStorage (dialect : Dialect) :
    WrittenIn Declaration.signs dialect.unmangledStorage := by
  cases dialect <;> decide

namespace Declaration

def text (dialect : Dialect) : Declaration → String
  | typedef target name => "typedef " ++ target ++ " " ++ name ++ ";"
  | pointer name signature =>
      "typedef " ++ signature.ret.spelling ++ " (*" ++ name ++ ")(" ++
        dialect.parameterText signature ++ ");"
  | external name signature =>
      dialect.unmangledStorage ++ (" " ++ signature.ret.spelling ++ " " ++ name ++ "(" ++
        signature.parameterText ++ ");")

theorem render_line (dialect : Dialect) (declared : Declaration) :
    (declared.line dialect).render Palette.uncolored = declared.text dialect := by
  apply String.toList_inj.mp
  cases declared <;> simp [line, text, Line.render]

theorem writtenIn_target {target : String}
    (areWords : ∀ word ∈ targetWords target, isWord word.toList = true) :
    WrittenIn [' '] target := by
  intro char member
  rw [← intercalate_targetWords target, String.toList_intercalate] at member
  rcases Text.mem_intercalate member with blank | ⟨chars, listed, inWord⟩
  · obtain rfl : char = ' ' := List.mem_singleton.mp blank
    decide
  · obtain ⟨word, isTargetWord, rfl⟩ := List.mem_map.mp listed
    exact Text.writtenIn_of_isWord (areWords word isTargetWord) [' '] char inWord

/-- No sign of a signature is in the definition of a plain type. -/
theorem writtenIn_typedef (dialect : Dialect) {target name : String}
    (wellSpelled : (typedef target name).WellSpelled) :
    WrittenIn [' ', ';'] ((typedef target name).text dialect) := by
  obtain ⟨areWords, isName⟩ := wellSpelled
  have opening : WrittenIn [' ', ';'] "typedef " := by decide
  have isTarget := opening.append ((writtenIn_target areWords).mono (by decide))
  exact ((isTarget.append (by decide)).append (Text.writtenIn_of_isWord isName _)).append
    (by decide)

theorem writtenIn_text (dialect : Dialect) {declared : Declaration}
    (wellSpelled : declared.WellSpelled) : WrittenIn signs (declared.text dialect) := by
  cases declared with
  | typedef target name => exact (writtenIn_typedef dialect wellSpelled).mono (by decide)
  | pointer name signature =>
      have typedef : WrittenIn signs "typedef " := by decide
      have star : WrittenIn signs " (*" := by decide
      have isReturn := typedef.append signature.ret.writtenIn_spelling
      have isName := (isReturn.append star).append (Text.writtenIn_of_isWord wellSpelled signs)
      have parameters := dialect.writtenIn_parameterText signature
      exact ((isName.append (by decide)).append parameters).append (by decide)
  | external name signature =>
      have blank : WrittenIn signs " " := by decide
      have isReturn := blank.append signature.ret.writtenIn_spelling
      have isName := (isReturn.append blank).append (Text.writtenIn_of_isWord wellSpelled signs)
      exact dialect.writtenIn_unmangledStorage.append
        (((isName.append (by decide)).append signature.writtenIn_parameterText).append (by decide))

end Declaration

namespace Row

def bannerText (toolchain : Toolchain) (dialect : Dialect) : String :=
  "/* cprelude prologue: toolchain " ++ toolchain.name ++ ", dialect " ++ dialect.name ++ " */"

def text (dialect : Dialect) : Row → String
  | .banner toolchain => bannerText toolchain dialect
  | .guardTest guard => "#ifndef " ++ guard
  | .guardDefinition guard => "#define " ++ guard
  | .guardEnd guard => "#endif /* " ++ guard ++ " */"
  | .blank => ""
  | .declaration declared => declared.text dialect

theorem render_line (dialect : Dialect) (row : Row) :
    (row.line dialect).render Palette.uncolored = row.text dialect := by
  cases row with
  | declaration declared => exact declared.render_line dialect
  | banner toolchain => exact Line.render_single .comment (bannerText toolchain dialect)
  | guardTest _ | guardDefinition _ | guardEnd _ | blank =>
      apply String.toList_inj.mp
      simp [line, text, Layout.directive, Layout.blankLine, Line.render]

def signs : List Char :=
  Declaration.signs ++ ['#', '/', ':', '+']

theorem writtenIn_text (dialect : Dialect) {row : Row} (wellSpelled : row.WellSpelled) :
    WrittenIn signs (row.text dialect) := by
  cases row with
  | banner toolchain =>
      have opening : WrittenIn signs "/* cprelude prologue: toolchain " := by decide
      have isToolchain : WrittenIn signs toolchain.name := by cases toolchain <;> decide
      have isDialect : WrittenIn signs dialect.name := by cases dialect <;> decide
      exact (((opening.append isToolchain).append (by decide)).append isDialect).append (by decide)
  | guardTest guard =>
      have directive : WrittenIn signs "#ifndef " := by decide
      exact directive.append (Text.writtenIn_of_isWord wellSpelled signs)
  | guardDefinition guard =>
      have directive : WrittenIn signs "#define " := by decide
      exact directive.append (Text.writtenIn_of_isWord wellSpelled signs)
  | guardEnd guard =>
      have directive : WrittenIn signs "#endif /* " := by decide
      exact (directive.append (Text.writtenIn_of_isWord wellSpelled signs)).append (by decide)
  | blank => exact nofun
  | declaration declared =>
      exact (declared.writtenIn_text dialect wellSpelled).mono (List.subset_append_left _ _)

theorem unbroken_text (dialect : Dialect) {row : Row} (wellSpelled : row.WellSpelled) :
    Unbroken (row.text dialect) :=
  (writtenIn_text dialect wellSpelled).not_mem (by decide) (by decide)

/-- A row as it is written, with or without colours. -/
def written (dialect : Dialect) (colored : Bool) (row : Row) : String :=
  (row.line dialect).render (Palette.choose colored)

theorem unbroken_written {row : Row} (wellSpelled : row.WellSpelled) (dialect : Dialect)
    (colored : Bool) : Unbroken (row.written dialect colored) := by
  refine Line.unbroken_render ?_ colored
  rw [render_line]
  exact row.unbroken_text dialect wellSpelled

theorem written_uncolored (dialect : Dialect) : written dialect false = text dialect :=
  funext (render_line dialect)

end Row

namespace Layout

variable {layout : Layout} {backend : Backend} {refs : FunctionRefs}

theorem text_eq_join_written (layout : Layout) (backend : Backend) (refs : FunctionRefs)
    (colored : Bool) :
    layout.text (Palette.choose colored) backend refs =
      String.join (((layout.rows backend refs).map (Row.written layout.dialect colored)).map
        (· ++ "\n")) := by
  rw [text_eq_rows, Line.renderAll, List.map_map, List.map_map]
  rfl

theorem lines_text_written (wellSpelled : ∀ row ∈ layout.rows backend refs, row.WellSpelled)
    (colored : Bool) :
    Text.lines (layout.text (Palette.choose colored) backend refs) =
      (layout.rows backend refs).map (Row.written layout.dialect colored) ++ [""] := by
  rw [text_eq_join_written]
  apply Text.lines_join
  intro text listed
  obtain ⟨row, inRows, rfl⟩ := List.mem_map.mp listed
  exact Row.unbroken_written (wellSpelled row inRows) layout.dialect colored

theorem text_eq_join (layout : Layout) (backend : Backend) (refs : FunctionRefs) :
    layout.text Palette.uncolored backend refs =
      String.join (((layout.rows backend refs).map (Row.text layout.dialect)).map (· ++ "\n")) := by
  rw [← Row.written_uncolored]
  exact layout.text_eq_join_written backend refs false

theorem lines_text (wellSpelled : ∀ row ∈ layout.rows backend refs, row.WellSpelled) :
    Text.lines (layout.text Palette.uncolored backend refs) =
      (layout.rows backend refs).map (Row.text layout.dialect) ++ [""] := by
  rw [← Row.written_uncolored]
  exact lines_text_written wellSpelled false

end Layout

end PortableC
