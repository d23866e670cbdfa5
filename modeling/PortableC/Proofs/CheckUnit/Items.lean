import PortableC.Proofs.CheckUnit.Tokens

namespace PortableC

/-! What the check unit declares behind the prologue. -/

open Source (Declares Item Readings)

namespace CheckUnit

def sizeItem (scalar : Scalar) : Item :=
  ⟨"typedef", checkUnitName ++ "_size_" ++ scalar.name, ["char", scalar.name]⟩

def calleeItem : Item :=
  ⟨"static", checkUnitName ++ "_callee", ["i32", "i32", "u8"]⟩

def castTypes : Dialect → List String
  | .c => []
  | .cxx => [handleName]

def handleItem (dialect : Dialect) : Item :=
  ⟨"", checkUnitName ++ "_handle",
    handleName :: castTypes dialect ++ [checkUnitName ++ "_callee"]⟩

def callerItem : Item :=
  ⟨"", checkUnitName, ["void", "u8", "u32"]⟩

def items (dialect : Dialect) (handle : Bool) : List Item :=
  Scalar.all.map sizeItem ++ (if handle then [calleeItem, handleItem dialect] else []) ++
    [callerItem]

theorem openBraces_sizes : ∀ reading ∈ sizeReadings, Source.openBraces 0 reading.2 = 0 := by
  intro reading listed
  rcases List.mem_cons.mp listed with rfl | inSizes
  · rfl
  · obtain ⟨scalar, _, rfl⟩ := List.mem_map.mp inSizes
    rfl

theorem openBraces_handle (dialect : Dialect) :
    ∀ reading ∈ handleReadings dialect, Source.openBraces 0 reading.2 = 0 := by
  cases dialect <;> decide

theorem openBraces_call (toolchain : Toolchain) (allocator : String) :
    ∀ reading ∈ callReadings toolchain allocator, Source.openBraces 0 reading.2 = 0 := by
  intro reading listed
  simp only [callReadings, List.mem_cons, List.not_mem_nil, or_false] at listed
  rcases listed with rfl | rfl
  · rfl
  · cases toolchain <;> rfl

theorem openBraces_header (toolchain : Toolchain) :
    ∀ reading ∈ headerReadings toolchain, Source.openBraces 0 reading.2 = 0 := by
  cases toolchain <;> decide

theorem declares_sizes : Declares sizeReadings.text.toList (Scalar.all.map sizeItem) := by
  apply Declares.of_readings faithful_sizeReadings openBraces_sizes
  decide

theorem declares_handle (dialect : Dialect) :
    Declares (handleReadings dialect).text.toList [calleeItem, handleItem dialect] := by
  apply Declares.of_readings (faithful_handleReadings dialect) (openBraces_handle dialect)
  cases dialect <;> decide

theorem declares_call (toolchain : Toolchain) {allocator : String}
    (isWord_allocator : Text.isWord allocator.toList = true) :
    Declares (callReadings toolchain allocator).text.toList [callerItem] := by
  apply Declares.of_readings (faithful_callReadings toolchain isWord_allocator)
    (openBraces_call toolchain allocator)
  have caller : (Source.declarationLines callerTokens).mapM Item.read? = some [callerItem] := by
    decide
  have body : Source.declarationLines (bodyTokens toolchain allocator) = [] := by
    cases toolchain <;> rfl
  simpa [callReadings, body] using caller

theorem declares_blank : Declares "\n".toList [] := by
  have faithful : Readings.Faithful [("", [])] :=
    fun _ listed => List.mem_singleton.mp listed ▸ readsLine_empty
  have blank : Declares (Readings.text [("", [])]).toList [] :=
    Declares.of_readings faithful (by decide) rfl
  have text : Readings.text [("", [])] = "\n" := rfl
  rwa [text] at blank

theorem declares_header (toolchain : Toolchain) :
    Declares (headerReadings toolchain).text.toList [] := by
  apply Declares.of_readings (faithful_headerReadings toolchain) (openBraces_header toolchain)
  cases toolchain <;> decide

theorem declares_readings (toolchain : Toolchain) (dialect : Dialect) (handle : Bool)
    {allocator : String} (isWord_allocator : Text.isWord allocator.toList = true) :
    Declares (readings toolchain dialect handle allocator).text.toList (items dialect handle) := by
  have opening := declares_sizes.append declares_blank
  have call := declares_call toolchain isWord_allocator
  rw [List.append_nil] at opening
  cases handle with
  | false =>
      simp only [readings, items, Bool.false_eq_true, ↓reduceIte, List.append_nil,
        Readings.text_append, String.toList_append]
      exact opening.append call
  | true =>
      simp only [readings, items, ↓reduceIte, Readings.text_append, String.toList_append]
      exact (opening.append (declares_handle dialect)).append call

end CheckUnit

/-- The unit declares what its prologue declares, and what the checks need. -/
theorem Prologue.Reachable.declares_checkUnit {prologue : Prologue}
    (reachable : prologue.Reachable) :
    ∃ unit, prologue.checkUnit = .ok unit ∧ Declares unit.toList (prologue.items ++
      CheckUnit.items prologue.dialect prologue.functionRefs.handle?.isSome) := by
  refine ⟨_, Prologue.checkUnit_eq reachable.functionRefs_wellFormed, ?_⟩
  have joined := (((CheckUnit.declares_header prologue.toolchain).append
    reachable.declares_text).append CheckUnit.declares_blank).append
    (CheckUnit.declares_readings prologue.toolchain prologue.dialect
      prologue.functionRefs.handle?.isSome prologue.backend.allocator_free.isWord)
  simpa using joined

end PortableC
