import PortableC.Declaration
import PortableC.Text.Blank

namespace PortableC

/-! How the declarations of a prologue become one text: a banner, an include
guard, and sections set apart by blank lines. -/

open Text (Line Palette)

structure Layout where
  dialect : Dialect := .cxx
  guard : Option String := none
  banner : Bool := true
deriving DecidableEq, Repr

namespace Layout

def blankLine : Line := []

def bannerLines (layout : Layout) (toolchain : Toolchain) : List Line :=
  if layout.banner then
    [[⟨.comment, "/* cprelude prologue: toolchain " ++ toolchain.name ++ ", dialect " ++
      layout.dialect.name ++ " */"⟩]]
  else []

def directive (keyword name : String) : Line :=
  [⟨.keyword, keyword⟩, ⟨.plain, " "⟩, ⟨.name, name⟩]

def openingLines (layout : Layout) : List Line :=
  match layout.guard with
  | none => []
  | some guard => [directive "#ifndef" guard, directive "#define" guard, blankLine]

def closingLines (layout : Layout) : List Line :=
  match layout.guard with
  | none => []
  | some guard => [[⟨.keyword, "#endif"⟩, ⟨.plain, " "⟩, ⟨.comment, "/* " ++ guard ++ " */"⟩]]

def sectionLines (layout : Layout) (declarations : List Declaration) : List Line :=
  if declarations.isEmpty then []
  else declarations.map (Declaration.line layout.dialect) ++ [blankLine]

def lines (layout : Layout) (backend : Backend) (refs : FunctionRefs) : List Line :=
  layout.bannerLines backend.toolchain ++ layout.openingLines ++
    (Declaration.sections backend refs layout.dialect).flatMap layout.sectionLines ++
    layout.closingLines

/-- The whole text, which ends in exactly one newline. -/
def text (layout : Layout) (palette : Palette) (backend : Backend) (refs : FunctionRefs) :
    String :=
  Text.trimmedEnd (Line.renderAll palette (layout.lines backend refs)) ++ "\n"

end Layout

end PortableC
