import PortableC.Proofs.Text.Lines
import PortableC.Proofs.Text.Trim
import PortableC.Text.Column

namespace PortableC.Text

/-! Texts in the columns of a line, which are counted from 0.

A line reads the same before and after the blanks at its end are trimmed off.
-/

variable {column width : Nat} {text line : List Char}

/-- All of a text is in a line from a column on, and next to it on either side is a blank or an
end of the line. -/
def StandsAt (column : Nat) (text line : List Char) : Prop :=
  ∃ before after, line = before ++ (text ++ after) ∧ before.length = column ∧
    (∀ char ∈ before.getLast?, isBlank char = true) ∧ ∀ char ∈ after.head?, isBlank char = true

/-- What is read in some columns of a line, without the blanks around it. -/
def field (column width : Nat) (line : List Char) : List Char :=
  trim ((line.drop column).take width)

/-- A text that a cell shows as it is, with room for a blank. -/
structure FitsIn (width : Nat) (text : String) : Prop where
  filled : text ≠ ""
  trimmed : trim text.toList = text.toList
  unbroken : Unbroken text
  narrow : text.length < width

instance (width : Nat) (text : String) : Decidable (FitsIn width text) :=
  decidable_of_iff
    (text ≠ "" ∧ trim text.toList = text.toList ∧ Unbroken text ∧ text.length < width)
    ⟨fun ⟨filled, trimmed, unbroken, narrow⟩ => ⟨filled, trimmed, unbroken, narrow⟩,
      fun ⟨filled, trimmed, unbroken, narrow⟩ => ⟨filled, trimmed, unbroken, narrow⟩⟩

theorem FitsIn.endsVisibly {text : String} (fits : FitsIn width text) :
    EndsVisibly text.toList := by
  apply endsVisibly_of_last
  · exact fun empty => fits.filled (String.toList_eq_nil_iff.mp empty)
  · rw [← fits.trimmed]
    exact last_trimEnd _

/-! Cells. -/

theorem blanks_spaces (count : Nat) : Blanks (spaces count).toList := by
  intro char member
  rw [spaces, String.toList_ofList] at member
  rw [List.eq_of_mem_replicate member]
  decide

theorem head_spaces_append {count : Nat} (some_space : 0 < count) (rest : List Char) :
    ∀ char ∈ ((spaces count).toList ++ rest).head?, isBlank char = true := by
  obtain ⟨count, rfl⟩ := Nat.exists_eq_add_one.mpr some_space
  intro char isFirst
  rw [spaces, String.toList_ofList, List.replicate_succ] at isFirst
  exact Option.some.inj isFirst ▸ by decide

theorem last_append_spaces {count : Nat} (some_space : 0 < count) (front : List Char) :
    ∀ char ∈ (front ++ (spaces count).toList).getLast?, isBlank char = true := by
  obtain ⟨count, rfl⟩ := Nat.exists_eq_add_one.mpr some_space
  intro char isLast
  rw [spaces, String.toList_ofList, List.replicate_succ', ← List.append_assoc,
    List.getLast?_concat] at isLast
  exact Option.some.inj isLast ▸ by decide

section
variable {text : String} {line before after : List Char}

theorem toList_padRight (width : Nat) (text : String) :
    (padRight width text).toList = text.toList ++ (spaces (width - text.length)).toList :=
  String.toList_append

theorem toList_padLeft (width : Nat) (text : String) :
    (padLeft width text).toList = (spaces (width - text.length)).toList ++ text.toList :=
  String.toList_append

theorem FitsIn.length_padRight (fits : FitsIn width text) :
    (padRight width text).toList.length = width := by
  have narrow := fits.narrow
  simp only [padRight, spaces, String.toList_append, String.toList_ofList, List.length_append,
    List.length_replicate, String.length_toList]
  omega

theorem FitsIn.length_padLeft (fits : FitsIn width text) :
    (padLeft width text).toList.length = width := by
  have narrow := fits.narrow
  simp only [padLeft, spaces, String.toList_append, String.toList_ofList, List.length_append,
    List.length_replicate, String.length_toList]
  omega

theorem FitsIn.head_padLeft (fits : FitsIn width text) (after : List Char) :
    ∀ char ∈ ((padLeft width text).toList ++ after).head?, isBlank char = true := by
  rw [toList_padLeft, List.append_assoc]
  exact head_spaces_append (Nat.sub_pos_of_lt fits.narrow) _

theorem field_append {cell : List Char} (wide : cell.length = width) (before after : List Char) :
    field before.length width (before ++ (cell ++ after)) = trim cell := by
  rw [field, List.drop_left, ← wide, List.take_left]

/-- A text that is filled up on the right is read in its cell, and behind it there is a blank. -/
theorem FitsIn.shown_padRight (fits : FitsIn width text)
    (cut : line = before ++ ((padRight width text).toList ++ after))
    (start : before.length = column) (apart : ∀ char ∈ before.getLast?, isBlank char = true) :
    field column width line = text.toList ∧ StandsAt column text.toList line := by
  subst cut start
  refine ⟨?_, before, (spaces (width - text.length)).toList ++ after, ?_, rfl, apart,
    head_spaces_append (Nat.sub_pos_of_lt fits.narrow) after⟩
  · rw [field_append fits.length_padRight, toList_padRight, trim_append_blanks (blanks_spaces _),
      fits.trimmed]
  · rw [toList_padRight, List.append_assoc]

/-- A text that is filled up on the left is read in its cell, and in front of it there is a
blank. -/
theorem FitsIn.shown_padLeft (fits : FitsIn width text)
    (cut : line = before ++ ((padLeft width text).toList ++ after))
    (start : before.length = column) (apart : ∀ char ∈ after.head?, isBlank char = true) :
    field column width line = text.toList ∧
      StandsAt (column + width - text.length) text.toList line := by
  subst cut start
  have narrow := fits.narrow
  refine ⟨?_, before ++ (spaces (width - text.length)).toList, after, ?_, ?_,
    last_append_spaces (Nat.sub_pos_of_lt narrow) before, apart⟩
  · rw [field_append fits.length_padLeft, toList_padLeft, trim_blanks_append (blanks_spaces _),
      fits.trimmed]
  · rw [toList_padLeft, List.append_assoc, List.append_assoc]
  · simp only [spaces, String.toList_ofList, List.length_append, List.length_replicate]
    omega

end

/-! Blanks at the end of a line. -/

theorem field_trimEnd (column width : Nat) (line : List Char) :
    field column width (trimEnd line) = field column width line := by
  obtain ⟨after, blank, cut⟩ := exists_trimEnd_blanks line
  -- The field loses no more than blanks, which are not read anyway.
  let behind := (after.drop (column - (trimEnd line).length)).take
    (width - ((trimEnd line).drop column).length)
  have blankBehind : Blanks behind := fun char member =>
    blank char (List.mem_of_mem_drop (List.mem_of_mem_take member))
  have read : (line.drop column).take width =
      ((trimEnd line).drop column).take width ++ behind := by
    rw [← List.take_append, ← List.drop_append, ← cut]
  rw [field, field, read, trim_append_blanks blankBehind]

theorem Unbroken.trimmedEnd {text : String} (unbroken : Unbroken text) :
    Unbroken (trimmedEnd text) := by
  rw [Unbroken, toList_trimmedEnd]
  exact fun inside => unbroken ((prefix_trimEnd text.toList).mem inside)

theorem StandsAt.trimEnd (stands : StandsAt column text line) (visible : EndsVisibly text) :
    StandsAt column text (trimEnd line) := by
  obtain ⟨before, after, rfl, start, apartBefore, apartAfter⟩ := stands
  refine ⟨before, Text.trimEnd after, ?_, start, apartBefore, fun char isFirst =>
    apartAfter char (head_of_head_trimEnd isFirst)⟩
  obtain ⟨front, last, rfl, isVisible⟩ := visible
  have whole : EndsVisibly (before ++ (front ++ [last])) :=
    ⟨before ++ front, last, (List.append_assoc ..).symm, isVisible⟩
  rw [← List.append_assoc, whole.trimEnd_append, List.append_assoc]

/-- A line in which something stands is not trimmed away. -/
theorem StandsAt.endsVisibly_trimEnd (stands : StandsAt column text line)
    (visible : EndsVisibly text) : EndsVisibly (Text.trimEnd line) := by
  refine endsVisibly_of_last (fun empty => ?_) (last_trimEnd line)
  obtain ⟨before, after, cut, -, -⟩ := stands.trimEnd visible
  obtain ⟨front, last, rfl, -⟩ := visible
  simp [empty] at cut

end PortableC.Text
