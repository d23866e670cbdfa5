import PortableC.Compiler
import PortableC.Prologue

namespace PortableC

/-! Targets: for which compiler a prologue is wanted, and what it should hold.
Making the prologue of a target is the one step here that can fail. -/

structure Target where
  compiler : Compiler
  dialect : Dialect := .cxx
  allocator : Option String := none
  signatures : List Signature := []
  /-- Whether the handle for functions of any parameters is defined. -/
  handle : Bool := true
  guard : Option String := none
  banner : Bool := true
deriving DecidableEq, Repr

namespace Target

inductive Choice where
  | compiler (compiler : Compiler)
  | dialect (dialect : Dialect)
  | allocator (name : String)
  | signature (signature : Signature)
  | signatures (signatures : List Signature)
  | handle (enabled : Bool)
  | guard (name : String)
  | banner (enabled : Bool)
deriving DecidableEq, Repr

/-- The target with one more choice.  A choice replaces an earlier one, except that
signatures accumulate. -/
def choose (target : Target) : Choice → Target
  | .compiler compiler => { target with compiler }
  | .dialect dialect => { target with dialect }
  | .allocator name => { target with allocator := some name }
  | .signature signature => { target with signatures := target.signatures ++ [signature] }
  | .signatures signatures => { target with signatures := target.signatures ++ signatures }
  | .handle enabled => { target with handle := enabled }
  | .guard name => { target with guard := some name }
  | .banner enabled => { target with banner := enabled }

def chooseAll (target : Target) (choices : List Choice) : Target :=
  choices.foldl choose target

/-- Names that may guard the text.  The guard's macro erases its name from all that
follows, so the name must be a free one that no primitive goes by. -/
def isGuardName (backend : Backend) (name : String) : Bool :=
  isFreeName name &&
    !Primitive.all.any fun primitive =>
      primitive.name == name || (backend.symbol primitive).name == name

def checkGuard (backend : Backend) : Option String → Except Error Unit
  | none => .ok ()
  | some name => if isGuardName backend name then .ok () else .error (.notAnIdentifier name)

def functionRefs (target : Target) : FunctionRefs :=
  (FunctionRefs.initial target.handle).registerAll target.signatures

def layout (target : Target) : Layout :=
  { dialect := target.dialect, guard := target.guard, banner := target.banner }

def prologue (target : Target) : Except Error Prologue := do
  let toolchain ← target.compiler.toolchain
  let backend ← Backend.make toolchain target.allocator
  checkGuard backend target.guard
  .ok { backend, functionRefs := target.functionRefs, layout := target.layout }

end Target

end PortableC
