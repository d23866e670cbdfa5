import PortableC.Error
import PortableC.Text.Blank

namespace PortableC

/-! The source language of the generated code. -/

inductive Dialect where
  | c
  | cxx
deriving DecidableEq, Repr

namespace Dialect

def name : Dialect → String
  | c => "c"
  | cxx => "c++"

def boolSpelling : Dialect → String
  | c => "_Bool"
  | cxx => "bool"

/-- The storage class of a declaration whose symbol keeps its plain name. -/
def unmangledStorage : Dialect → String
  | c => "extern"
  | cxx => "extern \"C\""

/-- Whether a parameter list may consist of `...` alone.  In C a list without a
fixed parameter is left empty, which admits any arguments. -/
def allowsBareEllipsis : Dialect → Bool
  | c => false
  | cxx => true

/-- Names are read without regard to case or to blanks around them. -/
def parse (text : String) : Except Error Dialect :=
  match (Text.trimmed text).map Char.toLower with
  | "c" => .ok c
  | "c++" | "cxx" | "cpp" => .ok cxx
  | _ => .error (.unknownDialect text)

def parameterText (dialect : Dialect) (signature : Signature) : String :=
  if signature.variadic && signature.params.isEmpty && !dialect.allowsBareEllipsis then ""
  else signature.parameterText

end Dialect

end PortableC
