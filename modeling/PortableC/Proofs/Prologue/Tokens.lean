import PortableC.Proofs.Prologue.Reachable
import PortableC.Proofs.Source.Declares

namespace PortableC

/-! The tokens of the text of a prologue. -/

open Source (Token)
open Text (isWord Palette)

theorem Text.isWord_of_isIdentifier {name : String} (identifier : Text.isIdentifier name = true) :
    isWord name.toList = true := by
  simp only [Text.isIdentifier, Bool.and_eq_true] at identifier
  exact identifier.1

namespace FunctionRef

theorem isIdentifier_nameOf (purpose : Option Signature) :
    Text.isIdentifier (nameOf purpose) = true := by
  cases purpose with
  | none => decide
  | some signature => exact signature.isIdentifier_pointerName

end FunctionRef

theorem IntType.isWord_stdintName (type : IntType) : isWord type.stdintName.toList = true := by
  cases type <;> decide

theorem Dialect.isWord_boolSpelling (dialect : Dialect) :
    isWord dialect.boolSpelling.toList = true := by
  cases dialect <;> decide

namespace Toolchain

def nativeWords : Toolchain → List String
  | .msvc => ["unsigned", "__int8", "__int16", "__int32", "__int64"]
  | .gnu => ["signed", "unsigned", "char", "short", "int", "long"]

theorem targetWords_spelling_subset (toolchain : Toolchain) (type : IntType) :
    Declaration.targetWords (toolchain.spelling type) ⊆ toolchain.nativeWords := by
  -- The literal becomes a list of characters first; to decode it takes longer than to split it.
  cases toolchain <;> cases type <;>
    (simp only [Declaration.targetWords, spelling]; rw [String.toList_ofList]; decide)

theorem isWord_nativeWord (toolchain : Toolchain) :
    ∀ word ∈ toolchain.nativeWords, isWord word.toList = true := by
  cases toolchain <;> decide

end Toolchain

namespace Declaration

theorem isWord_scalarTarget (dialect : Dialect) (scalar : Scalar) :
    isWord (scalarTarget dialect scalar).toList = true := by
  cases scalar with
  | bool => exact dialect.isWord_boolSpelling
  | int type => exact type.isWord_stdintName

theorem wellSpelled_width (toolchain : Toolchain) (type : IntType) :
    (typedef (toolchain.spelling type) type.stdintName).WellSpelled :=
  ⟨fun word listed =>
    toolchain.isWord_nativeWord word (toolchain.targetWords_spelling_subset type listed),
    type.isWord_stdintName⟩

theorem wellSpelled_scalar (dialect : Dialect) (scalar : Scalar) :
    (typedef (scalarTarget dialect scalar) scalar.name).WellSpelled := by
  refine ⟨fun word listed => ?_, BaseType.isWord_spelling (.scalar scalar)⟩
  rw [targetWords_of_isWord (isWord_scalarTarget dialect scalar), List.mem_singleton] at listed
  rw [listed]
  exact isWord_scalarTarget dialect scalar

end Declaration

namespace Layout

variable {layout : Layout} {backend : Backend} {refs : FunctionRefs}

theorem wellSpelled_declaration (wellFormed : refs.WellFormed) {declared : Declaration}
    (listed : declared ∈ layout.declarations backend refs) : declared.WellSpelled := by
  simp only [declarations_eq, List.mem_append, List.mem_singleton, or_assoc] at listed
  rcases listed with inWidths | inScalars | inPointers | rfl
  · obtain ⟨type, _, rfl⟩ := List.mem_map.mp inWidths
    exact Declaration.wellSpelled_width _ type
  · obtain ⟨scalar, _, rfl⟩ := List.mem_map.mp inScalars
    exact Declaration.wellSpelled_scalar _ scalar
  · obtain ⟨ref, inRefs, rfl⟩ := List.mem_map.mp inPointers
    change isWord ref.name.toList = true
    rw [wellFormed.named ref inRefs]
    exact Text.isWord_of_isIdentifier (FunctionRef.isIdentifier_nameOf _)
  · exact backend.allocator_free.isWord

theorem wellSpelled_row (wellFormed : refs.WellFormed)
    (guardWord : ∀ guard ∈ layout.guard, isWord guard.toList = true) {row : Row}
    (listed : row ∈ layout.rows backend refs) : row.WellSpelled := by
  rcases mem_rows listed with rfl | rfl | ⟨guard, guarded, rfl | rfl | rfl⟩ |
    ⟨declared, isDeclared, rfl⟩
  · trivial
  · trivial
  · exact guardWord guard guarded
  · exact guardWord guard guarded
  · exact guardWord guard guarded
  · exact wellSpelled_declaration wellFormed isDeclared

end Layout

namespace Prologue

variable {prologue : Prologue}

def rows (prologue : Prologue) : List Row :=
  prologue.layout.rows prologue.backend prologue.functionRefs

def declarations (prologue : Prologue) : List Declaration :=
  prologue.layout.declarations prologue.backend prologue.functionRefs

theorem Reachable.guard_free (reachable : prologue.Reachable) {guard : String}
    (guarded : prologue.layout.guard = some guard) : FreeName guard :=
  freeName_of_isFreeName (reachable.guard_accepted guarded).1

def readings (prologue : Prologue) : Source.Readings :=
  Row.readings prologue.dialect prologue.rows

theorem text_eq_readings (prologue : Prologue) : prologue.text = prologue.readings.text := by
  rw [readings, Row.text_readings]
  exact prologue.layout.text_eq_rows prologue.backend prologue.functionRefs false

theorem Reachable.wellSpelled_rows (reachable : prologue.Reachable) :
    ∀ row ∈ prologue.rows, row.WellSpelled := fun _ listed =>
  Layout.wellSpelled_row reachable.functionRefs_wellFormed
    (fun _ guarded => (reachable.guard_free guarded).isWord) listed

theorem Reachable.faithful_readings (reachable : prologue.Reachable) :
    prologue.readings.Faithful :=
  Row.faithful_readings reachable.wellSpelled_rows

theorem Reachable.lines_text (reachable : prologue.Reachable) :
    Source.lines prologue.text.toList =
      prologue.rows.map (Row.tokens prologue.dialect) ++ [[]] := by
  have single : ∀ reading ∈ prologue.readings, .newline ∉ reading.2 := by
    intro reading listed
    obtain ⟨row, _, rfl⟩ := List.mem_map.mp listed
    exact fun member => (row.isPlain_tokens prologue.dialect _ member).1 rfl
  rw [text_eq_readings, reachable.faithful_readings.lines_text single, readings, Row.readings,
    List.map_map]
  rfl

def items (prologue : Prologue) : List Source.Item :=
  prologue.declarations.map (Declaration.item prologue.dialect)

theorem openBraces_readings (prologue : Prologue) :
    ∀ reading ∈ prologue.readings, Source.openBraces 0 reading.2 = 0 := by
  intro reading listed
  obtain ⟨row, _, rfl⟩ := List.mem_map.mp listed
  exact Source.openBraces_plain (row.isPlain_tokens prologue.dialect)

theorem flatMap_declarationLines (prologue : Prologue) :
    (prologue.readings.flatMap fun reading => Source.declarationLines reading.2) =
      prologue.declarations.map (Declaration.tokens prologue.dialect) := by
  rw [readings, Row.readings, List.flatMap_map, Row.flatMap_declarationLines]
  exact congrArg _
    (prologue.layout.filterMap_declared?_rows prologue.backend prologue.functionRefs)

theorem Reachable.declares_text (reachable : prologue.Reachable) :
    Source.Declares prologue.text.toList prologue.items := by
  rw [text_eq_readings]
  apply Source.Declares.of_readings reachable.faithful_readings prologue.openBraces_readings
  rw [flatMap_declarationLines, List.mapM_map]
  exact mapM_eq_some fun declared _ => declared.read?_tokens prologue.dialect

end Prologue

end PortableC
