import PortableC.Path

namespace PortableC

/-! Where files and directories stand, as seen from a working directory. -/

/-- The directory that the names of a location start from. -/
inductive Anchor where
  /-- The working directory, or the directory so many levels above it. -/
  | above (levels : Nat)
  | root
deriving DecidableEq, Repr

structure Location where
  anchor : Anchor := .above 0
  names : List (List Char) := []
deriving DecidableEq, Repr

namespace Location

def child (location : Location) (name : List Char) : Location :=
  { location with names := location.names ++ [name] }

/-- The directory around a location.  The root directory is its own parent. -/
def parent : Location → Location
  | { anchor := .above levels, names := [] } => { anchor := .above (levels + 1) }
  | { anchor := .root, names := [] } => { anchor := .root }
  | { anchor, names } => { anchor, names := names.dropLast }

/-- Where one step of a path leads, whatever is there. -/
def step (location : Location) (step : List Char) : Location :=
  if step = Path.here then location
  else if step = Path.up then location.parent
  else location.child step

def start (path : String) : Location :=
  { anchor := if Path.isAbsolute path then .root else .above 0 }

def isInside (location : Location) : Bool :=
  location.anchor == .above 0

end Location

end PortableC
