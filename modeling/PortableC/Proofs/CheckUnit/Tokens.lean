import PortableC.CheckUnit
import PortableC.Proofs.Prologue.Tokens

namespace PortableC

/-! The tokens of the checks behind a prologue.  Apart from the allocator's name they
depend on the target and on whether there is a handle. -/

open Source (EndsWord IsRun Readings ReadsLine Token)

theorem FunctionRefs.WellFormed.handle?_name {refs : FunctionRefs} (wellFormed : refs.WellFormed)
    {ref : FunctionRef} (found : refs.handle? = some ref) : ref.name = handleName := by
  have listed := List.mem_of_find?_eq_some found
  have isHandle : ref.kind = .handle := by simpa using List.find?_some found
  rw [wellFormed.named ref listed, purpose_eq_none_iff.mpr isHandle]
  rfl

namespace CheckUnit

def sizeTokens (scalar : Scalar) : List Token :=
  [.word "typedef", .word "char", .word (checkUnitName ++ "_size_" ++ scalar.name), .sign '[',
    .sign '(', .word "sizeof", .sign '(', .word scalar.name, .sign ')', .sign '=', .sign '=',
    .word (toString scalar.sizeBytes), .sign ')', .sign '?', .word "1", .sign ':', .sign '-',
    .word "1", .sign ']', .sign ';']

theorem isRun_name (scalar : Scalar) : IsRun scalar.name :=
  Source.isRun_of_isWord (BaseType.isWord_spelling (.scalar scalar))

theorem isRun_sizeName (scalar : Scalar) : IsRun (checkUnitName ++ "_size_" ++ scalar.name) := by
  have isWord_unit : Text.isWord checkUnitName.toList = true := by
    rw [checkUnitName, String.toList_ofList]
    decide
  have isWord_size : Text.isWord "_size_".toList = true := by
    rw [String.toList_ofList]
    decide
  exact ((Source.isRun_of_isWord isWord_unit).append (Source.isRun_of_isWord isWord_size)).append
    (isRun_name scalar)

theorem isRun_sizeBytes (scalar : Scalar) : IsRun (toString scalar.sizeBytes) := by
  have digits : ∀ count ∈ [1, 2, 4, 8], (toString count).toList ≠ [] ∧
      (toString count).toList.all Text.isIdentifierPart = true := by
    decide
  have listed : scalar.sizeBytes ∈ [1, 2, 4, 8] := by
    cases scalar with
    | bool => decide
    | int type => cases type <;> decide
  exact ⟨(digits _ listed).1, List.all_eq_true.mp (digits _ listed).2⟩

theorem readsLine_size (scalar : Scalar) :
    ReadsLine (sizeLine scalar).toList (sizeTokens scalar) := by
  intro rest
  have opening : Source.run .between "typedef char ".toList =
      ([.word "typedef", .word "char"], .between) := by
    rw [String.toList_ofList]
    decide
  have brackets : EndsWord "[(sizeof(" [.sign '[', .sign '(', .word "sizeof", .sign '('] :=
    ⟨_, _, String.toList_ofList, by decide, by decide⟩
  have equals : EndsWord ") == " [.sign ')', .sign '=', .sign '='] :=
    ⟨_, _, String.toList_ofList, by decide, by decide⟩
  have choice : EndsWord ") ? 1 : -1];" [.sign ')', .sign '?', .word "1", .sign ':', .sign '-',
      .word "1", .sign ']', .sign ';'] :=
    ⟨_, _, String.toList_ofList, by decide, by decide⟩
  have chars (opening unit size name brackets equals bytes choice : String) :
      (opening ++ unit ++ size ++ name ++ brackets ++ name ++ equals ++ bytes ++ choice).toList ++
          '\n' :: rest =
        opening.toList ++ ((unit ++ size ++ name).toList ++ (brackets.toList ++ (name.toList ++
          (equals.toList ++ (bytes.toList ++ (choice.toList ++ '\n' :: rest)))))) := by
    simp only [String.toList_append, List.append_assoc]
  have line : sizeLine scalar = "typedef char " ++ checkUnitName ++ "_size_" ++ scalar.name ++
      "[(sizeof(" ++ scalar.name ++ ") == " ++ toString scalar.sizeBytes ++ ") ? 1 : -1];" := rfl
  rw [line, chars, Source.tokens_append opening,
    Source.tokens_run_append (isRun_sizeName scalar) brackets,
    Source.tokens_run_append (isRun_name scalar) equals,
    Source.tokens_run_append (isRun_sizeBytes scalar) choice, Source.tokens_newline]
  simp only [sizeTokens, List.cons_append, List.nil_append]

def sizeReadings : Readings :=
  ("/* a negative array size fails the build */", []) ::
    Scalar.all.map fun scalar => (sizeLine scalar, sizeTokens scalar)

def calleeTokens : List Token :=
  [.word "static", .word "i32", .word "cprelude_probe_callee", .sign '(', .word "i32",
    .word "value", .sign ',', .word "u8", .sign '*', .word "data", .sign ')', .sign '\x7b',
    .sign '(', .word "void", .sign ')', .word "data", .sign ';', .word "return", .word "value",
    .sign ';', .sign '\x7d']

def castTokens : Dialect → List Token
  | .c => []
  | .cxx => [.sign '(', .word handleName, .sign ')']

def handleTokens (dialect : Dialect) : List Token :=
  [Token.word handleName, .word "cprelude_probe_handle", .sign '='] ++ castTokens dialect ++
    [Token.word "cprelude_probe_callee", .sign ';']

def handleReadings (dialect : Dialect) : Readings :=
  (handleLines handleName dialect).zip [calleeTokens, handleTokens dialect, []]

def callerTokens : List Token :=
  [.word "void", .sign '*', .word checkUnitName, .sign '(', .word "u8", .sign '*',
    .word "buffer", .sign ',', .word "u32", .word "size", .sign ')']

def fillName : Toolchain → String
  | .msvc => "memset"
  | .gnu => "__builtin_memset"

/-- What the caller does up to the name of the allocator. -/
def fillText (toolchain : Toolchain) : String :=
  "\x7b\n    " ++ fillName toolchain ++ "(buffer, 0, size);\n    return "

def fillTokens (toolchain : Toolchain) : List Token :=
  [.sign '\x7b', .newline, .word (fillName toolchain), .sign '(', .word "buffer", .sign ',',
    .word "0", .sign ',', .word "size", .sign ')', .sign ';', .newline, .word "return"]

/-- The lines from brace to brace. -/
def bodyText (toolchain : Toolchain) (allocator : String) : String :=
  fillText toolchain ++ allocator ++ "(size);\n\x7d"

def bodyTokens (toolchain : Toolchain) (allocator : String) : List Token :=
  fillTokens toolchain ++ Token.word allocator ::
    [.sign '(', .word "size", .sign ')', .sign ';', .newline, .sign '\x7d']

theorem readsLine_body (toolchain : Toolchain) {allocator : String}
    (isWord_allocator : Text.isWord allocator.toList = true) :
    ReadsLine (bodyText toolchain allocator).toList (bodyTokens toolchain allocator) := by
  intro rest
  have opened : Source.run .between (fillText toolchain).toList =
      (fillTokens toolchain, .between) := by
    simp only [fillText, String.toList_append]
    rw [String.toList_ofList, String.toList_ofList]
    cases toolchain <;> decide
  have closed : Source.run .between "(size);\n\x7d\n".toList =
      ([.sign '(', .word "size", .sign ')', .sign ';', .newline, .sign '\x7d', .newline],
        .between) := by
    rw [String.toList_ofList]
    decide
  have chars : (bodyText toolchain allocator).toList ++ '\n' :: rest =
      (fillText toolchain).toList ++ (allocator.toList ++ '(' ::
        ("size);\n\x7d\n".toList ++ rest)) := by
    simp [bodyText]
  have ending : '(' :: ("size);\n\x7d\n".toList ++ rest) = "(size);\n\x7d\n".toList ++ rest := by
    simp
  rw [chars, Source.tokens_append opened, Source.tokens_word isWord_allocator (by decide), ending,
    Source.tokens_append closed]
  simp [bodyTokens]

/-- The caller; its body counts as one line. -/
def callReadings (toolchain : Toolchain) (allocator : String) : Readings :=
  [("void* " ++ checkUnitName ++ "(u8* buffer, u32 size)", callerTokens),
    (bodyText toolchain allocator, bodyTokens toolchain allocator)]

def readings (toolchain : Toolchain) (dialect : Dialect) (handle : Bool) (allocator : String) :
    Readings :=
  sizeReadings ++ [("", [])] ++ (if handle then handleReadings dialect else []) ++
    callReadings toolchain allocator

/-- Every line of the checks is one of a section, or blank. -/
theorem forall_mem_readings {holds : String × List Token → Prop} {toolchain : Toolchain}
    {dialect : Dialect} {allocator : String} (sizes : ∀ reading ∈ sizeReadings, holds reading)
    (blank : holds ("", [])) (handled : ∀ reading ∈ handleReadings dialect, holds reading)
    (call : ∀ reading ∈ callReadings toolchain allocator, holds reading) (handle : Bool) :
    ∀ reading ∈ readings toolchain dialect handle allocator, holds reading := by
  have opening : ∀ reading ∈ sizeReadings ++ [("", [])], holds reading :=
    List.forall_mem_append.mpr ⟨sizes, List.forall_mem_singleton.mpr blank⟩
  refine List.forall_mem_append.mpr ⟨List.forall_mem_append.mpr ⟨opening, ?_⟩, call⟩
  cases handle with
  | false => exact List.forall_mem_nil _
  | true => exact handled

theorem faithful_sizeReadings : sizeReadings.Faithful := by
  intro reading listed
  rcases List.mem_cons.mp listed with rfl | inSizes
  · exact Source.readsLine_of_run (by decide)
  · obtain ⟨scalar, _, rfl⟩ := List.mem_map.mp inSizes
    exact readsLine_size scalar

theorem readsLine_empty : ReadsLine "".toList [] :=
  fun _ => rfl

theorem faithful_handleReadings (dialect : Dialect) : (handleReadings dialect).Faithful := by
  have callee : ReadsLine ("static i32 " ++ checkUnitName ++
      "_callee(i32 value, u8* data) \x7b (void)data; return value; \x7d").toList calleeTokens := by
    apply Source.readsLine_of_run
    simp only [String.toList_append, checkUnitName]
    rw [String.toList_ofList, String.toList_ofList, String.toList_ofList]
    decide
  have handle : ReadsLine (handleName ++ " " ++ checkUnitName ++ "_handle = " ++
      handleCast handleName dialect ++ checkUnitName ++ "_callee;").toList
      (handleTokens dialect) := by
    apply Source.readsLine_of_run
    simp only [String.toList_append, checkUnitName, handleName]
    rw [String.toList_ofList, String.toList_ofList, String.toList_ofList, String.toList_ofList,
      String.toList_ofList]
    cases dialect <;> decide
  intro reading listed
  simp only [handleReadings, handleLines, List.zip_cons_cons, List.zip_nil_right,
    List.mem_cons, List.not_mem_nil, or_false] at listed
  rcases listed with rfl | rfl | rfl
  · exact callee
  · exact handle
  · exact readsLine_empty

theorem faithful_callReadings (toolchain : Toolchain) {allocator : String}
    (isWord_allocator : Text.isWord allocator.toList = true) :
    (callReadings toolchain allocator).Faithful := by
  intro reading listed
  simp only [callReadings, List.mem_cons, List.not_mem_nil, or_false] at listed
  rcases listed with rfl | rfl
  · exact Source.readsLine_of_run (by decide)
  · exact readsLine_body toolchain isWord_allocator

theorem faithful_readings (toolchain : Toolchain) (dialect : Dialect) (handle : Bool)
    {allocator : String} (isWord_allocator : Text.isWord allocator.toList = true) :
    (readings toolchain dialect handle allocator).Faithful :=
  forall_mem_readings faithful_sizeReadings readsLine_empty (faithful_handleReadings dialect)
    (faithful_callReadings toolchain isWord_allocator) handle

theorem call_fillMemory (backend : Backend) :
    backend.call .fillMemory ["buffer", "0", "size"] =
      .ok (fillName backend.toolchain ++ "(buffer, 0, size)") := by
  have arguments : "(" ++ ", ".intercalate ["buffer", "0", "size"] ++ ")" =
      "(buffer, 0, size)" := by
    decide
  rw [← arguments, ← String.append_assoc, ← String.append_assoc]
  obtain ⟨toolchain, allocator, accepted⟩ := backend
  cases toolchain <;> rfl

theorem call_allocate (backend : Backend) :
    backend.call .allocate ["size"] = .ok (backend.allocator ++ "(size)") := by
  have arguments : "(" ++ ", ".intercalate ["size"] ++ ")" = "(size)" := by decide
  rw [← arguments, ← String.append_assoc, ← String.append_assoc]
  obtain ⟨toolchain, allocator, accepted⟩ := backend
  cases toolchain <;> rfl

theorem joinLines_append (first second : List String) :
    joinLines (first ++ second) = joinLines first ++ joinLines second := by
  simp [joinLines, String.join_append]

theorem joinLines_sizes : joinLines sizeLines = sizeReadings.text := by
  simp [joinLines, Readings.text, sizeReadings, sizeLines, Function.comp_def]

theorem joinLines_handle (dialect : Dialect) :
    joinLines (handleLines handleName dialect) = (handleReadings dialect).text := by
  simp [joinLines, Readings.text, handleReadings, handleLines]

theorem joinLines_call (toolchain : Toolchain) (allocator : String) :
    joinLines (callLines (fillName toolchain ++ "(buffer, 0, size)") (allocator ++ "(size)")) =
      (callReadings toolchain allocator).text := by
  apply String.toList_inj.mp
  simp [joinLines, Readings.text, callLines, callReadings, bodyText, fillText]

/-- The checks are always written, and their lines are these. -/
theorem checks_eq {prologue : Prologue} (wellFormed : prologue.functionRefs.WellFormed) :
    checks prologue = .ok (readings prologue.toolchain prologue.dialect
      prologue.functionRefs.handle?.isSome prologue.backend.allocator).text := by
  have separator : joinLines [""] = Readings.text [("", [])] := rfl
  cases found : prologue.functionRefs.handle? with
  | none =>
      simp only [checks, call_fillMemory, call_allocate, bind, Except.bind, found, List.append_nil,
        joinLines_append, joinLines_call, joinLines_sizes, separator, readings,
        Readings.text_append, Option.isSome_none, Bool.false_eq_true, ↓reduceIte]
      rfl
  | some ref =>
      simp only [checks, call_fillMemory, call_allocate, bind, Except.bind, found,
        wellFormed.handle?_name found, joinLines_append, joinLines_call, joinLines_sizes,
        joinLines_handle, separator, readings, Readings.text_append, Option.isSome_some, ↓reduceIte]
      rfl

def headerReadings : Toolchain → Readings
  | .msvc =>
      [("#include <string.h>",
        [.directive "#include", .sign '<', .word "string", .sign '.', .word "h", .sign '>']),
        ("", [])]
  | .gnu => []

theorem header_eq (backend : Backend) :
    header backend = (headerReadings backend.toolchain).text := by
  obtain ⟨toolchain, allocator, accepted⟩ := backend
  cases toolchain <;> rfl

theorem faithful_headerReadings (toolchain : Toolchain) : (headerReadings toolchain).Faithful := by
  intro reading listed
  cases toolchain with
  | msvc =>
      simp only [headerReadings, List.mem_cons, List.not_mem_nil, or_false] at listed
      rcases listed with rfl | rfl
      · exact Source.readsLine_of_run (by decide)
      · exact readsLine_empty
  | gnu => simp [headerReadings] at listed

end CheckUnit

/-- The check unit is always written: includes, the prologue, a blank line, and the
checks. -/
theorem Prologue.checkUnit_eq {prologue : Prologue}
    (wellFormed : prologue.functionRefs.WellFormed) :
    prologue.checkUnit = .ok ((CheckUnit.headerReadings prologue.toolchain).text ++
      prologue.text ++ "\n" ++ (CheckUnit.readings prologue.toolchain prologue.dialect
        prologue.functionRefs.handle?.isSome prologue.backend.allocator).text) := by
  simp only [checkUnit, CheckUnit.checks_eq wellFormed, CheckUnit.header_eq, bind, Except.bind]
  rfl

end PortableC
