import PortableC.Proofs.CheckUnit.Names
import PortableC.Proofs.Prologue.ChosenNames
import PortableC.Proofs.Source.Parameter

namespace PortableC

/-! Where the names that a user chose meet those of a check unit.

The functions of a check unit give names to their parameters.  These are free names, so
nothing keeps a user from choosing one of them for the allocator or for the guard.
-/

open Source (Item Readings Token declarationLines declarations? lineParameters parameterNames)

namespace Source

/-- The words of some tokens that a user may choose as a name. -/
def freeWords (tokens : List Token) : List String :=
  (tokens.filterMap Token.word?).filter isFreeName

@[simp] theorem freeWords_append (first second : List Token) :
    freeWords (first ++ second) = freeWords first ++ freeWords second := by
  simp [freeWords]

theorem mem_freeWords_iff {word : String} {tokens : List Token}
    (free : isFreeName word = true) : word ∈ freeWords tokens ↔ .word word ∈ tokens := by
  simp only [freeWords, List.mem_filter, free, and_true, List.mem_filterMap]
  constructor
  · rintro ⟨token, listed, isWord⟩
    cases token with
    | word text => rwa [← Option.some.inj isWord]
    | directive _ | literal _ | sign _ | newline => cases isWord
  · exact fun listed => ⟨_, listed, rfl⟩

theorem freeWords_readings (readings : Readings) :
    freeWords (readings.flatMap fun reading => reading.2 ++ [.newline]) =
      readings.flatMap fun reading => freeWords reading.2 := by
  induction readings with
  | nil => rfl
  | cons reading readings induction =>
      have newline : freeWords [.newline] = [] := rfl
      simp only [List.flatMap_cons, freeWords_append, newline, List.append_nil, induction]

end Source

namespace CheckUnit

/-- The names of the parameters of the callee and of the caller. -/
def parameters (handle : Bool) : List String :=
  (if handle then ["value", "data"] else []) ++ ["buffer", "size"]

theorem freeWords_sizes :
    (sizeReadings.flatMap fun reading => Source.freeWords reading.2) = [] := by
  have sizes : ∀ scalar ∈ Scalar.all, Source.freeWords (sizeTokens scalar) = [] := by decide
  rw [List.flatMap_eq_nil_iff]
  intro reading listed
  rcases List.mem_cons.mp listed with rfl | inSizes
  · rfl
  · obtain ⟨scalar, inAll, rfl⟩ := List.mem_map.mp inSizes
    exact sizes scalar inAll

theorem freeWords_handle (dialect : Dialect) :
    ((handleReadings dialect).flatMap fun reading => Source.freeWords reading.2) =
      ["value", "data", "data", "value"] := by
  cases dialect <;> decide

/-- The function that fills memory, as far as its name is a free one. -/
def fillWords : Toolchain → List String
  | .msvc => ["memset"]
  | .gnu => []

theorem freeWords_call (toolchain : Toolchain) {allocator : String}
    (free : isFreeName allocator = true) :
    ((callReadings toolchain allocator).flatMap fun reading => Source.freeWords reading.2) =
      ["buffer", "size"] ++ fillWords toolchain ++ ["buffer", "size", allocator, "size"] := by
  have caller : Source.freeWords callerTokens = ["buffer", "size"] := by decide
  have fill : Source.freeWords (fillTokens toolchain) =
      fillWords toolchain ++ ["buffer", "size"] := by
    cases toolchain <;> decide
  have argument : Source.freeWords [.sign '(', .word "size", .sign ')', .sign ';', .newline,
      .sign '\x7d'] = ["size"] := by
    decide
  have name : Source.freeWords [.word allocator] = [allocator] := by
    simp [Source.freeWords, Token.word?, free]
  have body : Source.freeWords (bodyTokens toolchain allocator) =
      fillWords toolchain ++ ["buffer", "size"] ++ ([allocator] ++ ["size"]) := by
    rw [bodyTokens, ← List.singleton_append, Source.freeWords_append, Source.freeWords_append,
      fill, name, argument]
  simp only [callReadings, List.flatMap_cons, List.flatMap_nil, caller, body, List.append_nil,
    List.append_assoc, List.cons_append, List.nil_append]

/-- The free words behind a prologue are the names of parameters, that of the allocator,
and on one toolchain that of the function which fills memory. -/
theorem mem_freeWords_readings (toolchain : Toolchain) (dialect : Dialect) (handle : Bool)
    {allocator : String} (free : isFreeName allocator = true) (word : String) :
    word ∈ ((readings toolchain dialect handle allocator).flatMap
        fun reading => Source.freeWords reading.2) ↔
      word ∈ parameters handle ∨ word = allocator ∨ word ∈ fillWords toolchain := by
  have blank : Source.freeWords [] = [] := rfl
  cases handle with
  | false =>
      simp only [readings, Bool.false_eq_true, ↓reduceIte, List.append_nil, List.flatMap_append,
        freeWords_sizes, List.flatMap_cons, List.flatMap_nil, blank, List.nil_append,
        freeWords_call toolchain free, parameters, List.mem_append, List.mem_cons,
        List.not_mem_nil, or_false]
      grind
  | true =>
      simp only [readings, ↓reduceIte, List.flatMap_append, freeWords_sizes, List.flatMap_cons,
        List.flatMap_nil, blank, List.append_nil, List.nil_append, freeWords_handle,
        freeWords_call toolchain free, parameters, List.mem_append, List.mem_cons,
        List.not_mem_nil, or_false]
      grind

theorem parameterNames_handle (dialect : Dialect) :
    ((handleReadings dialect).flatMap fun reading =>
      (declarationLines reading.2).flatMap lineParameters) = ["value", "data"] := by
  cases dialect <;> decide

theorem parameterNames_call (toolchain : Toolchain) (allocator : String) :
    ((callReadings toolchain allocator).flatMap fun reading =>
      (declarationLines reading.2).flatMap lineParameters) = ["buffer", "size"] := by
  have caller : (declarationLines callerTokens).flatMap lineParameters = ["buffer", "size"] := by
    decide
  have body : declarationLines (bodyTokens toolchain allocator) = [] := by
    cases toolchain <;> rfl
  simp only [callReadings, List.flatMap_cons, List.flatMap_nil, caller, body, List.append_nil]

theorem parameterNames_sizes :
    (sizeReadings.flatMap fun reading =>
      (declarationLines reading.2).flatMap lineParameters) = [] := by
  decide

theorem parameterNames_readings (toolchain : Toolchain) (dialect : Dialect) (handle : Bool)
    (allocator : String) :
    ((readings toolchain dialect handle allocator).flatMap fun reading =>
      (declarationLines reading.2).flatMap lineParameters) = parameters handle := by
  have blank : (declarationLines []).flatMap lineParameters = [] := rfl
  cases handle <;>
    simp [readings, parameters, List.flatMap_append, parameterNames_sizes, parameterNames_handle,
      parameterNames_call, blank]

theorem openBraces_readings (toolchain : Toolchain) (dialect : Dialect) (handle : Bool)
    (allocator : String) :
    ∀ reading ∈ readings toolchain dialect handle allocator,
      Source.openBraces 0 reading.2 = 0 :=
  forall_mem_readings openBraces_sizes rfl (openBraces_handle dialect)
    (openBraces_call toolchain allocator) handle

end CheckUnit

namespace Prologue

variable {prologue : Prologue}

/-- A check unit line by line, from its includes to its last brace. -/
def unitReadings (prologue : Prologue) : Readings :=
  CheckUnit.headerReadings prologue.toolchain ++ prologue.readings ++ [("", [])] ++
    CheckUnit.readings prologue.toolchain prologue.dialect prologue.functionRefs.handle?.isSome
      prologue.backend.allocator

theorem forall_mem_unitReadings {holds : String × List Token → Prop}
    (header : ∀ reading ∈ CheckUnit.headerReadings prologue.toolchain, holds reading)
    (declared : ∀ reading ∈ prologue.readings, holds reading) (blank : holds ("", []))
    (checks : ∀ reading ∈ CheckUnit.readings prologue.toolchain prologue.dialect
      prologue.functionRefs.handle?.isSome prologue.backend.allocator, holds reading) :
    ∀ reading ∈ prologue.unitReadings, holds reading := by
  have front : ∀ reading ∈ CheckUnit.headerReadings prologue.toolchain ++ prologue.readings,
      holds reading :=
    List.forall_mem_append.mpr ⟨header, declared⟩
  exact List.forall_mem_append.mpr
    ⟨List.forall_mem_append.mpr ⟨front, List.forall_mem_singleton.mpr blank⟩, checks⟩

theorem checkUnit_eq_unitReadings (wellFormed : prologue.functionRefs.WellFormed) :
    prologue.checkUnit = .ok prologue.unitReadings.text := by
  have blank : Readings.text [("", [])] = "\n" := rfl
  rw [checkUnit_eq wellFormed, unitReadings, Source.Readings.text_append,
    Source.Readings.text_append, Source.Readings.text_append, blank, text_eq_readings]

theorem Reachable.faithful_unitReadings (reachable : prologue.Reachable) :
    prologue.unitReadings.Faithful :=
  forall_mem_unitReadings (CheckUnit.faithful_headerReadings _) reachable.faithful_readings
    CheckUnit.readsLine_empty
    (CheckUnit.faithful_readings _ _ _ prologue.backend.allocator_free.isWord)

theorem openBraces_unitReadings (prologue : Prologue) :
    ∀ reading ∈ prologue.unitReadings, Source.openBraces 0 reading.2 = 0 :=
  forall_mem_unitReadings (CheckUnit.openBraces_header _) prologue.openBraces_readings rfl
    (CheckUnit.openBraces_readings _ _ _ _)

/-- The check unit names the parameters of its own functions, and no others. -/
theorem Reachable.parameterNames_unit (reachable : prologue.Reachable) :
    parameterNames prologue.unitReadings.text.toList =
      CheckUnit.parameters prologue.functionRefs.handle?.isSome := by
  have header : ((CheckUnit.headerReadings prologue.toolchain).flatMap fun reading =>
      (declarationLines reading.2).flatMap lineParameters) = [] := by
    cases prologue.toolchain <;> decide
  have declared : (prologue.readings.flatMap fun reading =>
      (declarationLines reading.2).flatMap lineParameters) = [] := by
    rw [← List.flatMap_assoc, flatMap_declarationLines, List.flatMap_map,
      List.flatMap_eq_nil_iff]
    exact fun declared _ => declared.lineParameters_tokens prologue.dialect
  have blank : (declarationLines []).flatMap lineParameters = [] := rfl
  rw [parameterNames, reachable.faithful_unitReadings.declarationLines_text
    prologue.openBraces_unitReadings, List.flatMap_assoc]
  simp only [unitReadings, List.flatMap_append, header, declared, List.flatMap_cons,
    List.flatMap_nil, blank, CheckUnit.parameterNames_readings, List.nil_append]

/-- The line on which the caller calls the allocator. -/
def returnTokens (prologue : Prologue) : List Token :=
  [.word "return", .word prologue.backend.allocator, .sign '(', .word "size", .sign ')',
    .sign ';']

theorem Reachable.returnTokens_mem (reachable : prologue.Reachable) :
    prologue.returnTokens ∈ Source.lines prologue.unitReadings.text.toList := by
  have read := reachable.faithful_unitReadings.tokens_text []
  simp only [List.append_nil, Source.tokens_nil] at read
  have single : Token.newline ∉ prologue.returnTokens := by simp [returnTokens]
  let front : Readings := CheckUnit.headerReadings prologue.toolchain ++ prologue.readings ++
    [("", [])] ++ CheckUnit.sizeReadings ++ [("", [])] ++
      if prologue.functionRefs.handle?.isSome then CheckUnit.handleReadings prologue.dialect
      else []
  let fill : List Token := [.sign '\x7b', .newline, .word (CheckUnit.fillName prologue.toolchain),
    .sign '(', .word "buffer", .sign ',', .word "0", .sign ',', .word "size", .sign ')', .sign ';']
  have split : (prologue.unitReadings.flatMap fun reading => reading.2 ++ [Token.newline]) =
      (front.flatMap (fun reading => reading.2 ++ [Token.newline]) ++ CheckUnit.callerTokens ++
        .newline :: fill) ++ .newline :: prologue.returnTokens ++
          .newline :: [.sign '\x7d', .newline] := by
    simp only [unitReadings, CheckUnit.readings, CheckUnit.callReadings, CheckUnit.bodyTokens,
      CheckUnit.fillTokens, returnTokens, front, fill, List.flatMap_append, List.flatMap_cons,
      List.flatMap_nil, List.append_assoc, List.cons_append, List.nil_append, List.append_nil]
  exact Source.mem_lines_of_tokens single (read.trans split)

theorem Reachable.count_allocator (reachable : prologue.Reachable) :
    ((prologue.items ++ CheckUnit.items prologue.dialect
      prologue.functionRefs.handle?.isSome).map Item.name).count prologue.backend.allocator =
      1 := by
  apply List.count_eq_one_of_mem (CheckUnit.names_nodup_behind reachable)
  rw [List.map_append, map_name_items]
  simp [declaredNames]

/-- What stands behind the prologue in its check unit. -/
def checkReadings (prologue : Prologue) : Readings :=
  [("", [])] ++ CheckUnit.readings prologue.toolchain prologue.dialect
    prologue.functionRefs.handle?.isSome prologue.backend.allocator

theorem Reachable.word_mem_checks_iff (reachable : prologue.Reachable) {guard : String}
    (guarded : prologue.layout.guard = some guard) :
    .word guard ∈ Source.tokens prologue.checkReadings.text.toList ↔
      guard ∈ CheckUnit.parameters prologue.functionRefs.handle?.isSome := by
  obtain ⟨free, notFillMemory, _, notAllocator⟩ := reachable.guard_accepted guarded
  have notFill : guard ∉ CheckUnit.fillWords prologue.toolchain := by
    cases found : prologue.toolchain with
    | msvc =>
        rw [CheckUnit.fillWords, List.mem_singleton]
        exact notFillMemory.symm
    | gnu => exact List.not_mem_nil
  have faithful : prologue.checkReadings.Faithful :=
    List.forall_mem_append.mpr ⟨List.forall_mem_singleton.mpr CheckUnit.readsLine_empty,
      CheckUnit.faithful_readings _ _ _ prologue.backend.allocator_free.isWord⟩
  have read := faithful.tokens_text []
  simp only [List.append_nil, Source.tokens_nil] at read
  have blank : Source.freeWords [] = [] := rfl
  rw [read, ← Source.mem_freeWords_iff free, Source.freeWords_readings, checkReadings,
    List.flatMap_append, List.flatMap_cons, List.flatMap_nil, blank, List.append_nil,
    List.nil_append,
    CheckUnit.mem_freeWords_readings _ _ _ prologue.backend.isFreeName_allocator]
  simp [notFill, notAllocator.symm]

/-- A check unit calls the allocator that its prologue declares, and does not mention
the guard behind the prologue, just as long as these names are not those of the
parameters of its functions.  Nothing refuses such a name: an allocator `size` is then
hidden by a number, and the guard `buffer` erases a parameter. -/
theorem chosen_names_kept_from_checks_iff (reachable : prologue.Reachable) :
    let allocator := prologue.backend.allocator
    let parameters := (if prologue.functionRefs.handle?.isSome then ["value", "data"] else []) ++
      ["buffer", "size"]
    ∃ unit behind items,
      prologue.checkUnit = .ok unit ∧
      unit = CheckUnit.header prologue.backend ++ prologue.text ++ behind ∧
      [.word "return", .word allocator, .sign '(', .word "size", .sign ')', .sign ';'] ∈
        Source.lines unit.toList ∧
      declarations? unit.toList = some items ∧
      parameterNames unit.toList = parameters ∧
      ((items.map Item.name ++ parameterNames unit.toList).count allocator = 1 ↔
        allocator ∉ parameters) ∧
      ∀ guard, prologue.layout.guard = some guard →
        (.word guard ∉ Source.tokens behind.toList ↔ guard ∉ parameters) := by
  intro allocator parameters
  have written := checkUnit_eq_unitReadings reachable.functionRefs_wellFormed
  have named : parameterNames prologue.unitReadings.text.toList = parameters :=
    reachable.parameterNames_unit
  obtain ⟨unit, sameUnit, declares⟩ := reachable.declares_checkUnit
  obtain rfl : prologue.unitReadings.text = unit := Except.ok.inj (written.symm.trans sameUnit)
  refine ⟨_, prologue.checkReadings.text, _, written, ?_, reachable.returnTokens_mem,
    declares.whole, named, ?_, ?_⟩
  · rw [unitReadings, List.append_assoc, Source.Readings.text_append,
      Source.Readings.text_append, ← text_eq_readings]
    exact congrArg (· ++ prologue.text ++ prologue.checkReadings.text)
      (CheckUnit.header_eq prologue.backend).symm
  · rw [List.count_append, reachable.count_allocator, named, Nat.add_eq_left,
      List.count_eq_zero]
  · intro guard guarded
    exact not_congr (reachable.word_mem_checks_iff guarded)

/-- `size` passes as an allocator and `buffer` as a guard. -/
theorem chosen_names_kept_from_checks_iff_parameters :
    let target : Target :=
      { compiler := .gnu 9, allocator := some "size", guard := some "buffer" }
    ∃ made unit behind items, target.prologue = .ok made ∧
      made.checkUnit = .ok unit ∧
      unit = CheckUnit.header made.backend ++ made.text ++ behind ∧
      declarations? unit.toList = some items ∧
      (items.map Item.name ++ parameterNames unit.toList).count "size" ≠ 1 ∧
      .word "buffer" ∈ Source.tokens behind.toList := by
  intro target
  have accepted : isAllocatorName "size" = true := by decide
  have checked : Target.checkGuard ⟨.gnu, "size", accepted⟩ (some "buffer") = .ok () := by
    decide +revert
  have made : target.prologue =
      .ok ⟨⟨.gnu, "size", accepted⟩, target.functionRefs, target.layout⟩ :=
    Target.prologue_eq_ok_iff.mpr ⟨.gnu, rfl, dif_pos accepted, checked, rfl, rfl⟩
  obtain ⟨unit, behind, items, written, split, _, read, _, allocator, guard⟩ :=
    chosen_names_kept_from_checks_iff (Reachable.made made)
  refine ⟨_, unit, behind, items, made, written, split, read, fun once => ?_, ?_⟩
  · exact allocator.mp once (by simp)
  · by_contra absent
    exact (guard "buffer" rfl).mp absent (by simp)

end Prologue

end PortableC
