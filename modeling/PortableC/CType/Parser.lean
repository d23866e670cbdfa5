import PortableC.Error
import PortableC.Text.Blank

namespace PortableC

/-! Reading a written type: a base type followed by stars, with blanks allowed
before every star and around the whole. -/

namespace CType

def isStarOrBlank (char : Char) : Bool :=
  char == '*' || Text.isBlank char

/-- The base type and the stars of a trimmed text.  Everything in its last run of
stars and blanks belongs to the pointers. -/
def ofTrimmed? (text : List Char) : Option CType :=
  let fromEnd := text.reverse
  let base := (fromEnd.dropWhile isStarOrBlank).reverse
  let stars := (fromEnd.takeWhile isStarOrBlank).count '*'
  (BaseType.ofSpelling? (String.ofList base)).map fun base => { base, stars }

/-- Reads a type; the refusal shows the text without the blanks around it. -/
def parseChars (text : List Char) : Except Error CType :=
  match ofTrimmed? (Text.trim text) with
  | some type => .ok type
  | none => .error (.notAType (String.ofList (Text.trim text)))

def parse (text : String) : Except Error CType :=
  parseChars text.toList

end CType

end PortableC
