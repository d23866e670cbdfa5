import PortableC.Backend
import PortableC.Dialect
import PortableC.FunctionRef
import PortableC.Text.Palette

namespace PortableC

/-! The declarations of a prologue, as data, and the line that writes each. -/

open Text (Line Role)

inductive Declaration where
  | typedef (target name : String)
  | pointer (name : String) (signature : Signature)
  | external (name : String) (signature : Signature)
deriving DecidableEq, Repr

namespace Declaration

def name : Declaration → String
  | typedef _ name => name
  | pointer name _ => name
  | external name _ => name

def line (dialect : Dialect) : Declaration → Line
  | typedef target name =>
      [⟨.keyword, "typedef"⟩, ⟨.plain, " " ++ target ++ " "⟩, ⟨.name, name⟩, ⟨.plain, ";"⟩]
  | pointer name signature =>
      [⟨.keyword, "typedef"⟩, ⟨.plain, " " ++ signature.ret.spelling ++ " (*"⟩, ⟨.name, name⟩,
        ⟨.plain, ")(" ++ dialect.parameterText signature ++ ");"⟩]
  | external name signature =>
      [⟨.keyword, dialect.unmangledStorage⟩, ⟨.plain, " " ++ signature.ret.spelling ++ " "⟩,
        ⟨.name, name⟩, ⟨.plain, "(" ++ signature.parameterText ++ ");"⟩]

/-- The integer types under their names from `<stdint.h>`. -/
def widths (toolchain : Toolchain) : List Declaration :=
  IntType.all.map fun type => typedef (toolchain.spelling type) type.stdintName

def scalarTarget (dialect : Dialect) : Scalar → String
  | .bool => dialect.boolSpelling
  | .int type => type.stdintName

def scalars (dialect : Dialect) : List Declaration :=
  Scalar.all.map fun scalar => typedef (scalarTarget dialect scalar) scalar.name

def pointers (refs : FunctionRefs) : List Declaration :=
  refs.list.map fun ref => pointer ref.name ref.signature

def externals (backend : Backend) : List Declaration :=
  backend.externals.map fun symbol => external symbol.name symbol.signature

/-- The four sections of a prologue.  Each uses only names of the ones before. -/
def sections (backend : Backend) (refs : FunctionRefs) (dialect : Dialect) :
    List (List Declaration) :=
  [widths backend.toolchain, scalars dialect, pointers refs, externals backend]

end Declaration

end PortableC
