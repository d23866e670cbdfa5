import PortableC.Proofs.CheckUnit.Tokens
import PortableC.Proofs.Prologue.Colors

namespace PortableC

/-! No escape character is in a check unit. -/

open Source (Readings Token)
open Text (WrittenIn escape)

namespace CheckUnit

/-- No line has an escape character. -/
def Visible (readings : Readings) : Prop :=
  ∀ reading ∈ readings, escape ∉ reading.1.toList

instance (readings : Readings) : Decidable (Visible readings) :=
  List.decidableBAll (fun reading : String × List Token => escape ∉ reading.1.toList) readings

theorem Visible.text {readings : Readings} (visible : Visible readings) :
    escape ∉ readings.text.toList := by
  induction readings with
  | nil => decide
  | cons reading readings induction =>
      obtain ⟨first, others⟩ := List.forall_mem_cons.mp visible
      have chars : (Readings.text (reading :: readings)).toList =
          reading.1.toList ++ '\n' :: (Readings.text readings).toList := by
        simp [Readings.text]
      rw [chars, List.mem_append, List.mem_cons]
      rintro (inFirst | newline | inOthers)
      · exact first inFirst
      · exact absurd newline (by decide)
      · exact induction others inOthers

def sizeSigns : List Char :=
  [' ', '[', '(', ')', ']', '=', '?', ':', '-', ';']

theorem writtenIn_sizeLine (scalar : Scalar) : WrittenIn sizeSigns (sizeLine scalar) := by
  have opening : WrittenIn sizeSigns "typedef char " := by decide
  have unit : WrittenIn sizeSigns checkUnitName := by decide
  have size : WrittenIn sizeSigns "_size_" := by decide
  have brackets : WrittenIn sizeSigns "[(sizeof(" := by decide
  have equals : WrittenIn sizeSigns ") == " := by decide
  have name : WrittenIn sizeSigns scalar.name :=
    fun char member => .inl ((isRun_name scalar).2 char member)
  have bytes : WrittenIn sizeSigns (toString scalar.sizeBytes) :=
    fun char member => .inl ((isRun_sizeBytes scalar).2 char member)
  have declared := ((opening.append unit).append size).append name
  have measured := ((declared.append brackets).append name).append equals
  exact (measured.append bytes).append (by decide)

theorem visible_sizeLine (scalar : Scalar) : escape ∉ (sizeLine scalar).toList :=
  (writtenIn_sizeLine scalar).not_mem (by decide) (by decide)

theorem visible_sizeReadings : Visible sizeReadings := by
  refine List.forall_mem_cons.mpr ⟨by decide, fun reading listed => ?_⟩
  obtain ⟨scalar, _, rfl⟩ := List.mem_map.mp listed
  exact visible_sizeLine scalar

theorem visible_handleReadings (dialect : Dialect) : Visible (handleReadings dialect) := by
  cases dialect <;> decide

theorem visible_bodyText (toolchain : Toolchain) {allocator : String}
    (isWord_allocator : Text.isWord allocator.toList = true) :
    escape ∉ (bodyText toolchain allocator).toList := by
  have opened : escape ∉ (fillText toolchain).toList := by cases toolchain <;> decide
  have named : escape ∉ allocator.toList :=
    (Text.writtenIn_of_isWord isWord_allocator []).not_mem (by decide) List.not_mem_nil
  have closed : escape ∉ "(size);\n\x7d".toList := by decide
  rw [bodyText, String.toList_append, String.toList_append, List.mem_append, List.mem_append]
  rintro ((inOpened | inName) | inClosed)
  · exact opened inOpened
  · exact named inName
  · exact closed inClosed

theorem visible_callReadings (toolchain : Toolchain) {allocator : String}
    (isWord_allocator : Text.isWord allocator.toList = true) :
    Visible (callReadings toolchain allocator) := by
  refine List.forall_mem_cons.mpr ⟨by decide, List.forall_mem_singleton.mpr ?_⟩
  exact visible_bodyText toolchain isWord_allocator

theorem visible_readings (toolchain : Toolchain) (dialect : Dialect) (handle : Bool)
    {allocator : String} (isWord_allocator : Text.isWord allocator.toList = true) :
    Visible (readings toolchain dialect handle allocator) :=
  forall_mem_readings visible_sizeReadings List.not_mem_nil (visible_handleReadings dialect)
    (visible_callReadings toolchain isWord_allocator) handle

theorem visible_headerReadings (toolchain : Toolchain) : Visible (headerReadings toolchain) := by
  cases toolchain <;> decide

end CheckUnit

namespace Prologue.Reachable

variable {prologue : Prologue}

theorem visible_text (reachable : prologue.Reachable) : escape ∉ prologue.text.toList :=
  (Layout.colors_text reachable.wellSpelled_rows).visible

theorem visible_checkUnit (reachable : prologue.Reachable) {unit : String}
    (made : prologue.checkUnit = .ok unit) : escape ∉ unit.toList := by
  rw [checkUnit_eq reachable.functionRefs_wellFormed] at made
  obtain rfl := Except.ok.inj made
  have newline : escape ∉ "\n".toList := by decide
  have checks := CheckUnit.visible_readings prologue.toolchain prologue.dialect
    prologue.functionRefs.handle?.isSome prologue.backend.allocator_free.isWord
  simp only [String.toList_append, List.mem_append, not_or]
  exact ⟨⟨⟨(CheckUnit.visible_headerReadings _).text, reachable.visible_text⟩, newline⟩,
    checks.text⟩

end Prologue.Reachable

end PortableC
