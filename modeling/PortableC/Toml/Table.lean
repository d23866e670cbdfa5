import PortableC.Toml.Value

namespace PortableC.Toml

/-! Building tables entry by entry.

Every table may be defined once.  A table that stands only for the path to a
deeper one may still get a header; a table made by dotted keys may get more
dotted keys.  Whatever else is tried with an existing key is refused.
-/

namespace Entries

def value? (entries : Entries) (key : String) : Option Value :=
  (entries.find? (·.1 == key)).map (·.2)

def replace (entries : Entries) (key : String) (value : Value) : Entries :=
  entries.map fun entry => if entry.1 == key then (key, value) else entry

def erase (entries : Entries) (key : String) : Entries :=
  entries.filter (·.1 != key)

/-- Changes the table that a path leads to, making the tables that are missing on
the way with origin `made`.  A sequence of tables is entered at its last element.
`enter` says through which tables the path may lead. -/
def modifyAt (made : Origin) (enter : Origin → Bool)
    (change : Origin → Entries → Option Entries) :
    List String → Origin → Entries → Option Entries
  | [], origin, entries => change origin entries
  | key :: path, _, entries =>
      match entries.value? key with
      | none => do
          let child ← modifyAt made enter change path made []
          some (entries ++ [(key, .table made child)])
      | some (.table origin child) =>
          if enter origin then do
            let child ← modifyAt made enter change path origin child
            some (entries.replace key (.table origin child))
          else none
      | some (.tables elements) =>
          match elements.getLast? with
          | none => none
          | some element => do
              let element ← modifyAt made enter change path .header element
              some (entries.replace key (.tables (elements.dropLast ++ [element])))
      | some _ => none

/-- Adds an entry to a table.  If a dotted key has led there, the table must have
been made by dotted keys. -/
def addEntry (dotted : Bool) (key : String) (value : Value) (origin : Origin)
    (entries : Entries) : Option Entries :=
  if dotted && origin != .dotted then none
  else if (entries.value? key).isSome then none
  else some (entries ++ [(key, value)])

/-- Adds a value under a key of one or more parts.  A dotted key makes the tables
on its way, and does not enter tables that a header or braces have defined. -/
def addPair (entries : Entries) (path : List String) (value : Value) : Option Entries :=
  match path.getLast? with
  | none => none
  | some key =>
      let front := path.dropLast
      modifyAt .dotted (fun origin => origin == .implied || origin == .dotted)
        (addEntry (!front.isEmpty) key value) front .header entries

/-- Opens a table that is new or was only implied so far.  It moves behind the
entries that are already there. -/
def openTable (key : String) (_ : Origin) (entries : Entries) : Option Entries :=
  match entries.value? key with
  | none => some (entries ++ [(key, .table .header [])])
  | some (.table .implied child) => some (entries.erase key ++ [(key, .table .header child)])
  | some _ => none

def openElement (key : String) (_ : Origin) (entries : Entries) : Option Entries :=
  match entries.value? key with
  | none => some (entries ++ [(key, .tables [[]])])
  | some (.tables elements) => some (entries.replace key (.tables (elements ++ [[]])))
  | some _ => none

/-- A header leads through every table that is not closed. -/
def modifyUnderHeader (change : Origin → Entries → Option Entries) (path : List String)
    (entries : Entries) : Option Entries :=
  modifyAt .implied (· != .inline) change path .header entries

end Entries

end PortableC.Toml
