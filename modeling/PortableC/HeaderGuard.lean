import PortableC.Path
import PortableC.Text.MacroCase

namespace PortableC

/-! Include guards that follow from the name of the file a prologue goes to. -/

namespace HeaderGuard

def headerExtensions : List (List Char) :=
  [['h'], ['h', 'h'], ['h', 'p', 'p']]

/-- The guard for a header file; other files have none. -/
def ofPath (path : String) : Option String := do
  let name ← Path.fileName? path
  let extension ← Path.extension? name
  if headerExtensions.contains extension then some (Text.macroCase (String.ofList name)) else none

end HeaderGuard

end PortableC
