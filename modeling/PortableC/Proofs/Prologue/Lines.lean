import PortableC.Proofs.Layout.Lines
import PortableC.Proofs.Prologue.Tokens

namespace PortableC

/-! The text of a prologue, line by line. -/

namespace Toolchain

def widthLines (toolchain : Toolchain) : List String :=
  IntType.all.map fun type =>
    "typedef " ++ toolchain.spelling type ++ " " ++ type.stdintName ++ ";"

end Toolchain

namespace Dialect

def boolLine (dialect : Dialect) : String :=
  "typedef " ++ dialect.boolSpelling ++ " " ++ "i1" ++ ";"

def pointerLine (dialect : Dialect) (ref : FunctionRef) : String :=
  "typedef " ++ ref.signature.ret.spelling ++ " (*" ++ ref.name ++ ")(" ++
    dialect.parameterText ref.signature ++ ");"

/-- In C there is no list for any arguments, so none is written. -/
def Omits (dialect : Dialect) (signature : Signature) : Prop :=
  dialect = .c ∧ signature.variadic = true ∧ signature.params = []

theorem parameterText_of_not_omits {dialect : Dialect} {signature : Signature}
    (kept : ¬ dialect.Omits signature) :
    dialect.parameterText signature = signature.parameterText := by
  refine if_neg fun omits => kept ?_
  simp only [Bool.and_eq_true, List.isEmpty_iff, Bool.not_eq_true'] at omits
  obtain ⟨⟨variadic, empty⟩, inC⟩ := omits
  cases dialect with
  | c => exact ⟨rfl, variadic, empty⟩
  | cxx => cases inC

/-- Only `...` without a parameter in front of it is left out in one dialect. -/
theorem parameterText_eq {signature : Signature}
    (filled : signature.variadic = true → signature.params ≠ []) (dialect : Dialect) :
    dialect.parameterText signature = signature.parameterText :=
  parameterText_of_not_omits fun ⟨_, variadic, empty⟩ => filled variadic empty

end Dialect

namespace Layout

def bannerTexts (layout : Layout) (toolchain : Toolchain) : List String :=
  if layout.banner then [Row.bannerText toolchain layout.dialect] else []

def openingTexts (layout : Layout) : List String :=
  match layout.guard with
  | none => []
  | some guard => ["#ifndef " ++ guard, "#define " ++ guard, ""]

def closingTexts (layout : Layout) : List String :=
  match layout.guard with
  | none => []
  | some guard => ["", "#endif /* " ++ guard ++ " */"]

end Layout

/-- The aliases of the standard types, and the blank line in front of pointer types. -/
def FunctionRefs.aliasTexts (refs : FunctionRefs) : List String :=
  (IntType.all.map fun type => "typedef " ++ type.stdintName ++ " " ++ type.name ++ ";") ++
    if refs.list.isEmpty then [] else [""]

/-- The declaration of the allocator behind its storage class. -/
def Backend.allocatorText (backend : Backend) : String :=
  " " ++ Primitive.allocate.signature.ret.spelling ++ " " ++ backend.allocator ++ "(" ++
    Primitive.allocate.signature.parameterText ++ ");"

namespace Layout

theorem map_text_openingRows (layout : Layout) :
    layout.openingRows.map (Row.text layout.dialect) = layout.openingTexts := by
  rw [openingRows, openingTexts]
  cases layout.guard <;> rfl

theorem map_text_closingRows (layout : Layout) :
    layout.closingRows.map (Row.text layout.dialect) = layout.closingTexts := by
  rw [closingRows, closingTexts]
  cases layout.guard <;> rfl

theorem map_text_bannerRows (layout : Layout) (toolchain : Toolchain) :
    (layout.bannerRows toolchain).map (Row.text layout.dialect) =
      layout.bannerTexts toolchain := by
  rw [bannerRows, bannerTexts]
  split <;> rfl

theorem map_text_bodyRows (layout : Layout) (backend : Backend) (refs : FunctionRefs) :
    (layout.bodyRows backend refs).map (Row.text layout.dialect) =
      backend.toolchain.widthLines ++ [""] ++ [layout.dialect.boolLine] ++ refs.aliasTexts ++
        refs.list.map layout.dialect.pointerLine ++
        ["", layout.dialect.unmangledStorage ++ backend.allocatorText] := by
  have widths : ((Declaration.widths backend.toolchain).map Row.declaration).map
      (Row.text layout.dialect) = backend.toolchain.widthLines := rfl
  have scalars : ((Declaration.scalars layout.dialect).map Row.declaration).map
      (Row.text layout.dialect) = layout.dialect.boolLine :: IntType.all.map fun type =>
        "typedef " ++ type.stdintName ++ " " ++ type.name ++ ";" := rfl
  have pointers : ((Declaration.pointers refs).map Row.declaration).map
      (Row.text layout.dialect) = refs.list.map layout.dialect.pointerLine := by
    simp only [Declaration.pointers, List.map_map]
    rfl
  have ending : [Row.blank, .declaration (.external backend.allocator
      Primitive.allocate.signature)].map (Row.text layout.dialect) =
        ["", layout.dialect.unmangledStorage ++ backend.allocatorText] := rfl
  rw [bodyRows_eq, FunctionRefs.aliasTexts, List.map_append, List.map_append, List.map_append,
    ending, widths, List.map_cons, scalars]
  cases empty : refs.list.isEmpty with
  | true =>
      rw [List.isEmpty_iff.mp empty]
      simp [Row.text]
  | false => simp [Row.text, pointers]

end Layout

namespace Prologue

variable {prologue : Prologue}

def bannerTexts (prologue : Prologue) : List String :=
  prologue.layout.bannerTexts prologue.toolchain

theorem map_text_rows (prologue : Prologue) :
    prologue.rows.map (Row.text prologue.dialect) =
      prologue.bannerTexts ++ prologue.layout.openingTexts ++
        (prologue.toolchain.widthLines ++ [""] ++ [prologue.dialect.boolLine] ++
          prologue.functionRefs.aliasTexts ++
          prologue.functionRefs.list.map prologue.dialect.pointerLine ++
          ["", prologue.dialect.unmangledStorage ++ prologue.backend.allocatorText]) ++
        prologue.layout.closingTexts := by
  simp only [rows, dialect, Layout.rows, List.map_append, Layout.map_text_bannerRows,
    Layout.map_text_openingRows, Layout.map_text_bodyRows, Layout.map_text_closingRows]
  rfl

/-- All lines of the text, where the toolchain and the dialect stand out. -/
theorem Reachable.lines_eq (reachable : prologue.Reachable) :
    Text.lines prologue.text =
      prologue.bannerTexts ++ prologue.layout.openingTexts ++
        (prologue.toolchain.widthLines ++ [""] ++ [prologue.dialect.boolLine] ++
          prologue.functionRefs.aliasTexts ++
          prologue.functionRefs.list.map prologue.dialect.pointerLine ++
          ["", prologue.dialect.unmangledStorage ++ prologue.backend.allocatorText]) ++
        prologue.layout.closingTexts ++ [""] := by
  rw [← map_text_rows]
  exact Layout.lines_text reachable.wellSpelled_rows

/-- The lines of one kind are the rows of one kind. -/
theorem Reachable.filter_lines (reachable : prologue.Reachable) {keep : String → Bool}
    {kind : Row → Bool} (empty : keep "" = false)
    (each : ∀ row : Row, row.WellSpelled → keep (row.text prologue.dialect) = kind row) :
    (Text.lines prologue.text).filter keep =
      (prologue.rows.filter kind).map (Row.text prologue.dialect) := by
  have lines : Text.lines prologue.text = prologue.rows.map (Row.text prologue.dialect) ++ [""] :=
    Layout.lines_text reachable.wellSpelled_rows
  have kept : prologue.rows.filter (keep ∘ Row.text prologue.dialect) =
      prologue.rows.filter kind :=
    List.filter_congr fun row listed => each row (reachable.wellSpelled_rows row listed)
  rw [lines, List.filter_append, List.filter_map, kept]
  simp [empty]

end Prologue

end PortableC
