namespace PortableC.Text

/-! Coloured text.  A line is a list of spans, each with the role it plays in a
declaration; a palette says which escape sequences surround a role. -/

inductive Role where
  | plain
  | keyword
  | name
  | comment
deriving DecidableEq, Repr

/-- The sequence that opens each role, and the one that closes all of them. -/
structure Palette where
  keyword : String
  name : String
  comment : String
  reset : String
deriving DecidableEq, Repr

namespace Palette

/-- The standard colours that read on light and on dark terminals. -/
def colored : Palette :=
  { keyword := "\x1b[35m", name := "\x1b[34m", comment := "\x1b[2m", reset := "\x1b[0m" }

def uncolored : Palette :=
  { keyword := "", name := "", comment := "", reset := "" }

def choose (enabled : Bool) : Palette :=
  if enabled then colored else uncolored

def isEnabled (palette : Palette) : Bool :=
  !palette.reset.isEmpty

def paint (palette : Palette) (role : Role) (text : String) : String :=
  match role with
  | .plain => text
  | .keyword => palette.keyword ++ text ++ palette.reset
  | .name => palette.name ++ text ++ palette.reset
  | .comment => palette.comment ++ text ++ palette.reset

@[simp] theorem paint_uncolored (role : Role) (text : String) :
    uncolored.paint role text = text := by
  cases role <;> simp [paint, uncolored]

end Palette

structure Span where
  role : Role
  text : String
deriving DecidableEq, Repr

abbrev Line := List Span

namespace Line

def render (palette : Palette) (line : Line) : String :=
  String.join (line.map fun span => palette.paint span.role span.text)

def renderAll (palette : Palette) (lines : List Line) : String :=
  String.join (lines.map fun line => line.render palette ++ "\n")

end Line

end PortableC.Text
