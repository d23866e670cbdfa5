namespace PortableC

/-! File paths: names separated by slashes.  A backslash is an ordinary character. -/

namespace Path

/-- What stands between the slashes.  Slashes in a row count as one. -/
def steps (path : String) : List (List Char) :=
  (path.toList.splitOn '/').filter (!·.isEmpty)

def here : List Char := ['.']

def up : List Char := ['.', '.']

/-- The last step that leads somewhere, unless it leads back to a parent. -/
def fileName? (path : String) : Option (List Char) :=
  match ((steps path).filter (· != here)).getLast? with
  | none => none
  | some last => if last = up then none else some last

/-- What follows the last point of a name.  A point at the very start does not
count. -/
def extension? (name : List Char) : Option (List Char) :=
  let fromEnd := name.reverse
  match fromEnd.dropWhile (· != '.') with
  | _ :: _ :: _ => some (fromEnd.takeWhile (· != '.')).reverse
  | _ => none

def isAbsolute (path : String) : Bool :=
  path.toList.head? == some '/'

def endsInSlash (path : String) : Bool :=
  path.toList.getLast? == some '/'

end Path

end PortableC
