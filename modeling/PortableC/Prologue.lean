import PortableC.Layout

namespace PortableC

/-! A prologue that is ready to be written: the backend of its primitives, its
function references, and its layout. -/

open Text (Palette)

structure Prologue where
  backend : Backend
  functionRefs : FunctionRefs
  layout : Layout
deriving DecidableEq

namespace Prologue

def toolchain (prologue : Prologue) : Toolchain :=
  prologue.backend.toolchain

def dialect (prologue : Prologue) : Dialect :=
  prologue.layout.dialect

def textWith (prologue : Prologue) (palette : Palette) : String :=
  prologue.layout.text palette prologue.backend prologue.functionRefs

def text (prologue : Prologue) : String :=
  prologue.textWith Palette.uncolored

def coloredText (prologue : Prologue) (colored : Bool) : String :=
  prologue.textWith (Palette.choose colored)

def register (prologue : Prologue) (signature : Signature) : Prologue × Nat :=
  let (functionRefs, id) := prologue.functionRefs.register signature
  ({ prologue with functionRefs }, id)

end Prologue

end PortableC
