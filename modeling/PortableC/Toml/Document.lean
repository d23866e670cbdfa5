import PortableC.Toml.Expression

namespace PortableC.Toml

/-! A document is what its expressions make of an empty table, one after the other. -/

/-- The entries so far, and the path of the table that keys now go to. -/
structure Draft where
  entries : Entries := []
  current : List String := []

namespace Draft

def splitPath (path : List String) : Option (List String × String) :=
  path.getLast?.map fun key => (path.dropLast, key)

def add (draft : Draft) : Expression → Option Draft
  | .pair path value => do
      let entries ← draft.entries.modifyUnderHeader
        (fun _ entries => entries.addPair path value) draft.current
      some { draft with entries }
  | .header path => do
      let (front, key) ← splitPath path
      let entries ← draft.entries.modifyUnderHeader (Entries.openTable key) front
      some { entries, current := path }
  | .elementHeader path => do
      let (front, key) ← splitPath path
      let entries ← draft.entries.modifyUnderHeader (Entries.openElement key) front
      some { entries, current := path }

end Draft

def parse? (text : String) : Option Entries := do
  let expressions ← Expression.all? text.toList
  let draft ← expressions.foldlM Draft.add {}
  some draft.entries

end PortableC.Toml
