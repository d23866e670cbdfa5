import PortableC.CType

namespace PortableC

/-! Function signatures and their written forms. -/

/-- A return type, the fixed parameters, and whether more arguments may follow. -/
structure Signature where
  ret : CType
  params : List CType := []
  variadic : Bool := false
deriving DecidableEq, Repr

namespace Signature

def pieces (signature : Signature) : List String :=
  signature.params.map CType.spelling ++ if signature.variadic then ["..."] else []

def spelling (signature : Signature) : String :=
  signature.ret.spelling ++ "(" ++ ", ".intercalate signature.pieces ++ ")"

/-- The text between the parentheses of a declaration.  Without parameters it is
`void`, which makes the declaration a prototype in C. -/
def parameterText (signature : Signature) : String :=
  if signature.pieces.isEmpty then "void" else ", ".intercalate signature.pieces

/-- The name of the pointer type for the signature, as in `fn_i32_i32_voidp`. -/
def pointerName (signature : Signature) : String :=
  "fn_" ++ signature.ret.nameFragment ++
    String.join (signature.params.map fun param => "_" ++ param.nameFragment) ++
    if signature.variadic then "_va" else ""

def admits (signature : Signature) (arguments : List CType) : Bool :=
  if signature.variadic then signature.params.isPrefixOf arguments
  else signature.params == arguments

end Signature

end PortableC
