import PortableC.Scalar

namespace PortableC

/-! The types a signature can mention: `void` or a scalar, under any number of
pointers. -/

inductive BaseType where
  | void
  | scalar (type : Scalar)
deriving DecidableEq, Repr

namespace BaseType

def all : List BaseType :=
  .void :: Scalar.all.map .scalar

def spelling : BaseType → String
  | .void => "void"
  | .scalar type => type.name

def ofSpelling? (text : String) : Option BaseType :=
  all.find? (·.spelling == text)

end BaseType

structure CType where
  base : BaseType
  stars : Nat := 0
deriving DecidableEq, Repr

namespace CType

def void : CType :=
  { base := .void }

def voidPointer : CType :=
  { base := .void, stars := 1 }

def int (type : IntType) : CType :=
  { base := .scalar (.int type) }

/-- Whether the type is `void` itself and not a pointer to it. -/
def isVoid (type : CType) : Bool :=
  type == void

/-- The base followed by its stars, as in `u8**`. -/
def spelling (type : CType) : String :=
  type.base.spelling ++ String.ofList (List.replicate type.stars '*')

/-- The spelling made fit for an identifier: a `p` for each star. -/
def nameFragment (type : CType) : String :=
  type.base.spelling ++ String.ofList (List.replicate type.stars 'p')

end CType

end PortableC
