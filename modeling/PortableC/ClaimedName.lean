import PortableC.Scalar
import PortableC.Text.Identifier

namespace PortableC

/-! Names that belong to the prologue and to its check unit, and that no user may
give to an allocator or to a guard. -/

/-- The pointer type for callables whose signature is known only where they are
called. -/
def handleName : String :=
  "anyFn"

/-- The beginning of every name the check unit defines. -/
def checkUnitName : String :=
  "cprelude_probe"

/-- Beginnings of generated names: pointer types, builtins, and the check unit. -/
def claimedBeginnings : List String :=
  ["fn_", "__builtin_", checkUnitName]

def startsWith (beginning name : String) : Bool :=
  beginning.toList.isPrefixOf name.toList

def isClaimedName (name : String) : Bool :=
  Scalar.all.any (·.name == name) || IntType.all.any (·.stdintName == name) ||
    name == handleName || claimedBeginnings.any fun beginning => startsWith beginning name

/-- An identifier that no part of the prologue lays claim to. -/
def isFreeName (name : String) : Bool :=
  Text.isIdentifier name && !isClaimedName name

end PortableC
