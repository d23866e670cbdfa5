import PortableC.FileFault
import PortableC.Location
import PortableC.Path

namespace PortableC

/-! Files and directories, as reading and writing see them from a working
directory. -/

inductive FileContent where
  | text (text : String)
  /-- Bytes that are not UTF-8. -/
  | binary (bytes : List UInt8)
deriving DecidableEq, Repr

inductive FileNode where
  | file (content : FileContent)
  | directory
deriving DecidableEq, Repr

/-- What stands at each location.  The directories that locations are anchored at
need no entry. -/
structure FileTree where
  nodes : List (Location × FileNode) := []
deriving DecidableEq, Repr

namespace FileTree

def node? (tree : FileTree) (location : Location) : Option FileNode :=
  if location.names = [] then some .directory
  else (tree.nodes.find? (·.1 == location)).map (·.2)

def set (tree : FileTree) (location : Location) (node : FileNode) : FileTree :=
  if tree.nodes.any (·.1 == location) then
    { nodes := tree.nodes.map fun entry => if entry.1 == location then (location, node) else entry }
  else { nodes := tree.nodes ++ [(location, node)] }

def ensureDirectory (tree : FileTree) (location : Location) : FileTree :=
  if (tree.node? location).isSome then tree else tree.set location .directory

/-- Puts a node where a path leads, and directories on the way where there is nothing. -/
def place (tree : FileTree) (path : String) (node : FileNode) : FileTree :=
  let (tree, location) := (Path.steps path).foldl
    (fun (tree, location) step => (ensureDirectory tree location, location.step step))
    (tree, Location.start path)
  if location.names = [] then tree else tree.set location node

def greatestNameSize : Nat := 255

def pathSizeLimit : Nat := 4096

def enter (tree : FileTree) (location : Location) : Except FileFault Unit :=
  match tree.node? location with
  | none => .error .notFound
  | some (.file _) => .error .notADirectory
  | some .directory => .ok ()

/-- The location that steps lead to from another one.  Every step starts from a
directory; what is at its end remains open. -/
def follow (tree : FileTree) (location : Location) : List (List Char) →
    Except FileFault Location
  | [] => .ok location
  | step :: rest => do
      tree.enter location
      if greatestNameSize < (String.ofList step).utf8ByteSize then .error .nameTooLong
      else follow tree (location.step step) rest

def checkPath (path : String) : Except FileFault Unit :=
  if path.toList.contains '\x00' then .error .nulInPath
  else if pathSizeLimit ≤ path.utf8ByteSize then .error .nameTooLong
  else if path.isEmpty then .error .notFound
  else .ok ()

def readText (tree : FileTree) (path : String) : Except FileFault String := do
  checkPath path
  let location ← tree.follow (.start path) (Path.steps path)
  match tree.node? location with
  | none => .error .notFound
  | some .directory => .error .isADirectory
  | some (.file content) =>
      if Path.endsInSlash path then .error .notADirectory
      else
        match content with
        | .text text => .ok text
        | .binary _ => .error .notUtf8

/-- Why a path that ends in a slash cannot be written to.  It asks for a directory, and
its last step is not looked at once the steps before it have led to one. -/
def slashFault (tree : FileTree) (path : String) : FileFault :=
  match (tree.follow (.start path) (Path.steps path).dropLast).bind tree.enter with
  | .error fault => fault
  | .ok () => .isADirectory

def writeText (tree : FileTree) (path : String) (text : String) : Except FileFault FileTree := do
  checkPath path
  if Path.endsInSlash path then .error (tree.slashFault path)
  else do
    let location ← tree.follow (.start path) (Path.steps path)
    match tree.node? location with
    | some .directory => .error .isADirectory
    | _ => .ok (tree.set location (.file (.text text)))

/-- The files of the working directory that are new or hold something else than
before. -/
def changedFiles (before after : FileTree) : List (Location × FileContent) :=
  after.nodes.filterMap fun (location, node) =>
    match node with
    | .directory => none
    | .file content =>
        if location.isInside && before.node? location != some (.file content) then
          some (location, content)
        else none

end FileTree

end PortableC
