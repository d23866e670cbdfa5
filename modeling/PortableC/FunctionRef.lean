import PortableC.ClaimedName
import PortableC.Signature

namespace PortableC

/-! Function references: one pointer type for each signature that generated code
uses, and the handle `anyFn`, which holds any function that returns an `i32`.

`FunctionRefs` lists references in the order of registration.  None is ever removed
or changed, so an id stays good.
-/

inductive RefKind where
  | typed
  | handle
deriving DecidableEq, Repr

structure FunctionRef where
  id : Nat
  name : String
  signature : Signature
  kind : RefKind
deriving DecidableEq, Repr

structure FunctionRefs where
  list : List FunctionRef := []
deriving DecidableEq, Repr

namespace FunctionRefs

def empty : FunctionRefs := {}

def size (refs : FunctionRefs) : Nat :=
  refs.list.length

def isEmpty (refs : FunctionRefs) : Bool :=
  refs.list.isEmpty

def get? (refs : FunctionRefs) (id : Nat) : Option FunctionRef :=
  refs.list[id]?

def ofSignature? (refs : FunctionRefs) (signature : Signature) : Option FunctionRef :=
  refs.list.find? fun ref => ref.kind == .typed && ref.signature == signature

def handle? (refs : FunctionRefs) : Option FunctionRef :=
  refs.list.find? (·.kind == .handle)

/-- The base name, then `count` many names that have `_2`, `_3`, … after it. -/
def nameCandidates (base : String) (count : Nat) : List String :=
  base :: (List.range count).map fun index => base ++ "_" ++ toString (index + 2)

/-- The first candidate that is not in use.  There is one, since there are more
candidates than names in use. -/
def freshName (used : List String) (base : String) : String :=
  ((nameCandidates base used.length).find? fun name => !used.contains name).getD base

def push (refs : FunctionRefs) (name : String) (signature : Signature) (kind : RefKind) :
    FunctionRefs × Nat :=
  ({ list := refs.list ++ [{ id := refs.size, name, signature, kind }] }, refs.size)

def handleSignature : Signature :=
  { ret := .int .i32, variadic := true }

def registerHandle (refs : FunctionRefs) : FunctionRefs × Nat :=
  match refs.handle? with
  | some ref => (refs, ref.id)
  | none => refs.push handleName handleSignature .handle

def initial (handle : Bool) : FunctionRefs :=
  if handle then (registerHandle empty).1 else empty

def register (refs : FunctionRefs) (signature : Signature) : FunctionRefs × Nat :=
  match refs.ofSignature? signature with
  | some ref => (refs, ref.id)
  | none =>
      refs.push (freshName (refs.list.map (·.name)) signature.pointerName) signature .typed

def registerAll (refs : FunctionRefs) (signatures : List Signature) : FunctionRefs :=
  signatures.foldl (fun refs signature => (refs.register signature).1) refs

end FunctionRefs

end PortableC
