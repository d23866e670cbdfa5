import PortableC.Proofs.Text.Column
import PortableC.ScalarTable

namespace PortableC

/-! How the table of scalar types lines up.

Three narrow cells fill the columns below 18.  The cell of each toolchain takes 22 more, two of
which are in front of its text, so that the texts begin at column 20 and every 22 columns from
there on.  Every text is narrower than its cell, and only blanks are trimmed off a line, so that
each text is read back at its columns.
-/

open Text (EndsVisibly FitsIn StandsAt Unbroken field padLeft padRight trimEnd trimmedEnd)

namespace ScalarRow

variable {name bits bytes : String} {rest : List String} {line : List Char} {text : String}
  {index : Nat}

/-- Every text of a line fits into its cell. -/
structure Fitting (name bits bytes : String) (rest : List String) : Prop where
  name : FitsIn 6 name
  bits : FitsIn 5 bits
  bytes : FitsIn 7 bytes
  rest : ∀ text ∈ rest, FitsIn 20 text

/-- The texts that are read in a line at the columns of a table for `count` toolchains. -/
def readAt (count : Nat) (line : List Char) : List (List Char) :=
  field 0 6 line :: field 6 5 line :: field 11 7 line ::
    (List.range count).map fun index => field (20 + 22 * index) 20 line

/-- Texts stand in a line at the columns of the table, each apart from the others and with
nothing else in between or behind, and reading the line at these columns gives them back. -/
structure LinedUp (name bits bytes : String) (rest : List String) (line : List Char) : Prop where
  read : readAt rest.length line = (name :: bits :: bytes :: rest).map String.toList
  nameStands : StandsAt 0 name.toList line
  bitsStand : StandsAt (11 - bits.length) bits.toList line
  bytesStand : StandsAt (18 - bytes.length) bytes.toList line
  restStand : ∀ index text, rest[index]? = some text →
    StandsAt (20 + 22 * index) text.toList line
  gaps : ∀ index < rest.length, field (18 + 22 * index) 2 line = []
  within : line.length ≤ 18 + 22 * rest.length

/-! The cells of toolchains. -/

def toolchainCells (texts : List String) : List Char :=
  texts.flatMap fun text => "  ".toList ++ (padRight 20 text).toList

theorem length_gap : "  ".toList.length = 2 :=
  rfl

theorem length_toolchainCells (fits : ∀ text ∈ rest, FitsIn 20 text) :
    (toolchainCells rest).length = 22 * rest.length := by
  induction rest with
  | nil => rfl
  | cons text rest induction =>
      obtain ⟨first, others⟩ := List.forall_mem_cons.mp fits
      have restWidth := induction others
      have cellWidth := first.length_padRight
      rw [toolchainCells] at restWidth ⊢
      simp only [List.flatMap_cons, List.length_append, List.length_cons, length_gap] at restWidth ⊢
      omega

theorem toolchainCells_cut (fits : ∀ text ∈ rest, FitsIn 20 text)
    (found : rest[index]? = some text) :
    ∃ before after, before.length = 22 * index ∧
      toolchainCells rest = before ++ ("  ".toList ++ ((padRight 20 text).toList ++ after)) := by
  induction rest generalizing index with
  | nil => cases found
  | cons first rest induction =>
      obtain ⟨fitsFirst, others⟩ := List.forall_mem_cons.mp fits
      cases index with
      | zero =>
          obtain rfl : first = text := Option.some.inj found
          exact ⟨[], toolchainCells rest, rfl, List.append_assoc ..⟩
      | succ index =>
          -- The first cell moves all others by its 22 columns.
          obtain ⟨before, after, start, cut⟩ := induction others found
          refine ⟨"  ".toList ++ (padRight 20 first).toList ++ before, after, ?_, ?_⟩
          · have cellWidth := fitsFirst.length_padRight
            simp only [List.length_append, start, cellWidth, length_gap]
            omega
          · rw [toolchainCells] at cut ⊢
            rw [List.flatMap_cons, cut]
            simp only [List.append_assoc]

theorem head_toolchainCells (rest : List String) :
    ∀ char ∈ (toolchainCells rest).head?, Text.isBlank char = true := by
  cases rest with
  | nil => exact nofun
  | cons text rest =>
      intro char isFirst
      obtain rfl : ' ' = char := Option.some.inj isFirst
      decide

/-! Whole lines. -/

def narrowCells (name bits bytes : String) : List Char :=
  (padRight 6 name).toList ++ ((padLeft 5 bits).toList ++ (padLeft 7 bytes).toList)

theorem toList_cells (name bits bytes : String) (rest : List String) :
    (cells name bits bytes rest).toList =
      narrowCells name bits bytes ++ toolchainCells rest := by
  simp only [cells, narrowCells, toolchainCells, String.toList_append, String.toList_join,
    List.flatMap_map, List.append_assoc]

namespace Fitting

variable (fits : Fitting name bits bytes rest)

include fits

theorem length_narrowCells : (narrowCells name bits bytes).length = 18 := by
  rw [narrowCells, List.length_append, List.length_append, fits.name.length_padRight,
    fits.bits.length_padLeft, fits.bytes.length_padLeft]

theorem name_shown :
    let line := (cells name bits bytes rest).toList
    field 0 6 line = name.toList ∧ StandsAt 0 name.toList line := by
  intro line
  have cut : line = [] ++ ((padRight 6 name).toList ++
      ((padLeft 5 bits).toList ++ ((padLeft 7 bytes).toList ++ toolchainCells rest))) := by
    simp only [line, toList_cells, narrowCells, List.append_assoc, List.nil_append]
  exact fits.name.shown_padRight cut rfl (by simp)

theorem bits_shown :
    let line := (cells name bits bytes rest).toList
    field 6 5 line = bits.toList ∧ StandsAt (11 - bits.length) bits.toList line := by
  intro line
  have cut : line = (padRight 6 name).toList ++ ((padLeft 5 bits).toList ++
      ((padLeft 7 bytes).toList ++ toolchainCells rest)) := by
    simp only [line, toList_cells, narrowCells, List.append_assoc]
  exact fits.bits.shown_padLeft cut fits.name.length_padRight (fits.bytes.head_padLeft _)

theorem bytes_shown :
    let line := (cells name bits bytes rest).toList
    field 11 7 line = bytes.toList ∧ StandsAt (18 - bytes.length) bytes.toList line := by
  intro line
  have cut : line = ((padRight 6 name).toList ++ (padLeft 5 bits).toList) ++
      ((padLeft 7 bytes).toList ++ toolchainCells rest) := by
    simp only [line, toList_cells, narrowCells, List.append_assoc]
  have start : ((padRight 6 name).toList ++ (padLeft 5 bits).toList).length = 11 := by
    rw [List.length_append, fits.name.length_padRight, fits.bits.length_padLeft]
  exact fits.bytes.shown_padLeft cut start (head_toolchainCells rest)

/-- The cell of a toolchain begins with a gap of two columns. -/
theorem cell_shown (found : rest[index]? = some text) :
    let line := (cells name bits bytes rest).toList
    field (18 + 22 * index) 2 line = [] ∧ field (20 + 22 * index) 20 line = text.toList ∧
      StandsAt (20 + 22 * index) text.toList line := by
  intro line
  obtain ⟨others, after, width, cells⟩ := toolchainCells_cut fits.rest found
  let before := narrowCells name bits bytes ++ others
  have cut : line = before ++ ("  ".toList ++ ((padRight 20 text).toList ++ after)) := by
    rw [show line = _ from toList_cells .., cells, List.append_assoc]
  have start : before.length = 18 + 22 * index := by
    rw [List.length_append, fits.length_narrowCells, width]
  have cutText : line = (before ++ "  ".toList) ++ ((padRight 20 text).toList ++ after) := by
    rw [List.append_assoc, ← cut]
  have startText : (before ++ "  ".toList).length = 20 + 22 * index := by
    rw [List.length_append, start, length_gap]
    omega
  have apart := Text.last_append_spaces Nat.two_pos before
  refine ⟨?_, (fits.rest text (List.mem_of_getElem? found)).shown_padRight cutText startText apart⟩
  have blank : Text.trim "  ".toList = [] := rfl
  rw [cut, ← start, Text.field_append length_gap, blank]

theorem readAt_cells :
    readAt rest.length (cells name bits bytes rest).toList =
      (name :: bits :: bytes :: rest).map String.toList := by
  have restRead : ((List.range rest.length).map fun index =>
      field (20 + 22 * index) 20 (cells name bits bytes rest).toList) =
        rest.map String.toList := by
    apply List.ext_getElem
    · simp
    · intro index inRange inRest
      simp only [List.getElem_map, List.getElem_range]
      exact (fits.cell_shown (List.getElem?_eq_getElem _)).2.1
  rw [readAt, restRead, fits.name_shown.1, fits.bits_shown.1, fits.bytes_shown.1]
  rfl

theorem linedUp_cells : LinedUp name bits bytes rest (cells name bits bytes rest).toList where
  read := fits.readAt_cells
  nameStands := fits.name_shown.2
  bitsStand := fits.bits_shown.2
  bytesStand := fits.bytes_shown.2
  restStand _ _ found := (fits.cell_shown found).2.2
  gaps _ inRange := (fits.cell_shown (List.getElem?_eq_getElem inRange)).1
  within := by
    apply Nat.le_of_eq
    rw [toList_cells, List.length_append, fits.length_narrowCells,
      length_toolchainCells fits.rest]

theorem unbroken_cells : Unbroken (cells name bits bytes rest) := by
  have padded {width : Nat} {text : String} (fitsText : FitsIn width text) :
      '\n' ∉ (padRight width text).toList ∧ '\n' ∉ (padLeft width text).toList := by
    have noNewline := fitsText.unbroken
    rw [Unbroken] at noNewline
    simp [padRight, padLeft, Text.spaces, noNewline]
  rw [Unbroken, toList_cells, narrowCells, toolchainCells]
  simp only [List.mem_append, List.mem_flatMap, not_or, not_exists, not_and]
  refine ⟨⟨(padded fits.name).1, (padded fits.bits).2, (padded fits.bytes).2⟩, ?_⟩
  exact fun text listed => ⟨by decide, (padded (fits.rest text listed)).1⟩

end Fitting

/-- Lines read and stand the same when blanks are trimmed off their ends. -/
theorem LinedUp.trimEnd (fits : Fitting name bits bytes rest)
    (linedUp : LinedUp name bits bytes rest line) :
    LinedUp name bits bytes rest (trimEnd line) where
  read := by
    simp only [readAt, Text.field_trimEnd]
    exact linedUp.read
  nameStands := linedUp.nameStands.trimEnd fits.name.endsVisibly
  bitsStand := linedUp.bitsStand.trimEnd fits.bits.endsVisibly
  bytesStand := linedUp.bytesStand.trimEnd fits.bytes.endsVisibly
  restStand index text found :=
    (linedUp.restStand index text found).trimEnd
      (fits.rest text (List.mem_of_getElem? found)).endsVisibly
  gaps index inRange := by
    rw [Text.field_trimEnd]
    exact linedUp.gaps index inRange
  within := Nat.le_trans (Text.prefix_trimEnd line).length_le linedUp.within

/-- What is written of a line, without the blanks at its end. -/
theorem Fitting.written (fits : Fitting name bits bytes rest) :
    let line := trimmedEnd (cells name bits bytes rest)
    Unbroken line ∧ EndsVisibly line.toList ∧ LinedUp name bits bytes rest line.toList := by
  intro line
  have ends := fits.name_shown.2.endsVisibly_trimEnd fits.name.endsVisibly
  refine ⟨fits.unbroken_cells.trimmedEnd, ?_, ?_⟩
  · rwa [Text.toList_trimmedEnd]
  · rw [Text.toList_trimmedEnd]
    exact fits.linedUp_cells.trimEnd fits

end ScalarRow

theorem Toolchain.scalarSpelling_eq (toolchain : Toolchain) (scalar : Scalar) :
    toolchain.scalarSpelling scalar =
      (scalar.intType?.map toolchain.spelling).getD "bool" := by
  cases scalar <;> rfl

namespace ScalarTable

open ScalarRow (Fitting LinedUp)

variable (toolchains : List Toolchain)

theorem fitting_header : Fitting "alias" "bits" "bytes" (toolchains.map Toolchain.name) where
  name := by decide
  bits := by decide
  bytes := by decide
  rest text listed := by
    obtain ⟨toolchain, _, rfl⟩ := List.mem_map.mp listed
    cases toolchain <;> decide

theorem fitsIn_scalarSpelling (toolchain : Toolchain) (scalar : Scalar) :
    FitsIn 20 (toolchain.scalarSpelling scalar) := by
  have each : ∀ scalar ∈ Scalar.all, FitsIn 20 (toolchain.scalarSpelling scalar) := by
    cases toolchain <;> decide
  exact each scalar scalar.mem_all

theorem fitting_row (scalar : Scalar) :
    Fitting scalar.name (toString scalar.valueBits) (toString scalar.sizeBytes)
      (toolchains.map (·.scalarSpelling scalar)) := by
  have each : ∀ scalar ∈ Scalar.all, FitsIn 6 scalar.name ∧ FitsIn 5 (toString scalar.valueBits) ∧
      FitsIn 7 (toString scalar.sizeBytes) := by decide
  obtain ⟨name, bits, bytes⟩ := each scalar scalar.mem_all
  refine ⟨name, bits, bytes, fun text listed => ?_⟩
  obtain ⟨toolchain, _, rfl⟩ := List.mem_map.mp listed
  exact fitsIn_scalarSpelling toolchain scalar

theorem row_written (scalar : Scalar) :
    let line := trimmedEnd (ScalarRow.of toolchains scalar).line
    Unbroken line ∧ EndsVisibly line.toList ∧
      LinedUp scalar.name (toString scalar.valueBits) (toString scalar.sizeBytes)
        (toolchains.map (·.scalarSpelling scalar)) line.toList := by
  have spelled : (ScalarRow.of toolchains scalar).native.map (·.spelling) =
      toolchains.map (·.scalarSpelling scalar) := by
    rw [ScalarRow.of, List.map_map]
    rfl
  rw [ScalarRow.line, spelled]
  exact (fitting_row toolchains scalar).written

theorem lines_report :
    Text.lines (report toolchains (rows toolchains)) = trimmedEnd (headerLine toolchains) ::
      (Scalar.all.map fun scalar => trimmedEnd (ScalarRow.of toolchains scalar).line) ++ [""] := by
  let written := trimmedEnd (headerLine toolchains) ::
    Scalar.all.map fun scalar => trimmedEnd (ScalarRow.of toolchains scalar).line
  have joined : report toolchains (rows toolchains) = String.join (written.map (· ++ "\n")) := by
    simp [report, rows, written, Function.comp_def]
  rw [joined]
  apply Text.lines_join
  intro text listed
  rcases List.mem_cons.mp listed with rfl | isRow
  · exact (fitting_header toolchains).written.1
  · obtain ⟨scalar, _, rfl⟩ := List.mem_map.mp isRow
    exact (row_written toolchains scalar).1

/-- For any list of toolchains the table has a header and one line for each scalar type, in order.
No line ends in a blank, and in each the text of a toolchain begins 22 columns behind that of the
toolchain before it, from column 20 on.  Reading a line at the columns gives its texts back, which
are the name, the bits and the bytes of a type and how each toolchain spells it. -/
theorem lines_read_at_columns :
    ∃ (header : String) (shown : Scalar → String),
      Text.lines (report toolchains (rows toolchains)) = header :: Scalar.all.map shown ++ [""] ∧
      (∀ line ∈ header :: Scalar.all.map shown, EndsVisibly line.toList) ∧
      LinedUp "alias" "bits" "bytes" (toolchains.map Toolchain.name) header.toList ∧
      ∀ scalar,
        LinedUp scalar.name (toString scalar.valueBits) (toString scalar.sizeBytes)
          (toolchains.map fun toolchain =>
            (scalar.intType?.map toolchain.spelling).getD "bool") (shown scalar).toList := by
  refine ⟨trimmedEnd (headerLine toolchains),
    fun scalar => trimmedEnd (ScalarRow.of toolchains scalar).line, lines_report toolchains,
    ?_, (fitting_header toolchains).written.2.2, fun scalar => ?_⟩
  · intro line listed
    rcases List.mem_cons.mp listed with rfl | isRow
    · exact (fitting_header toolchains).written.2.1
    · obtain ⟨scalar, _, rfl⟩ := List.mem_map.mp isRow
      exact (row_written toolchains scalar).2.1
  · simp only [← Toolchain.scalarSpelling_eq]
    exact (row_written toolchains scalar).2.2

example : trimmedEnd (ScalarRow.of [.gnu, .msvc] (.int .u32)).line =
    "u32      32      4  unsigned int          unsigned __int32" := by
  decide +kernel

end ScalarTable

end PortableC
