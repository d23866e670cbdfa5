import PortableC.ClaimedName
import PortableC.Error
import PortableC.Primitive
import PortableC.Toolchain

namespace PortableC

/-! What stands behind the primitives on one toolchain.  Filling memory is the
toolchain's own business; the allocator is a symbol of the runtime that the user
may name. -/

/-- Names under which an allocator can be linked: free ones that mean no other
primitive. -/
def isAllocatorName (name : String) : Bool :=
  isFreeName name &&
    !Primitive.all.any fun primitive => primitive != .allocate && primitive.name == name

structure Backend where
  toolchain : Toolchain
  allocator : String
  allocator_accepted : isAllocatorName allocator = true
deriving DecidableEq

namespace Backend

def defaultAllocator : String :=
  Primitive.allocate.name

def make (toolchain : Toolchain) (allocator : Option String) : Except Error Backend :=
  let name := allocator.getD defaultAllocator
  if accepted : isAllocatorName name = true then .ok ⟨toolchain, name, accepted⟩
  else .error (.notAnIdentifier name)

def symbol (backend : Backend) : Primitive → Symbol
  | .fillMemory =>
      match backend.toolchain with
      | .msvc =>
          { primitive := .fillMemory, name := Primitive.fillMemory.name,
            linkage := .runtimeHeader }
      | .gnu => { primitive := .fillMemory, name := "__builtin_memset", linkage := .builtin }
  | .allocate => { primitive := .allocate, name := backend.allocator, linkage := .c }

def symbols (backend : Backend) : List Symbol :=
  Primitive.all.map backend.symbol

def symbolFor? (backend : Backend) (name : String) : Option Symbol :=
  backend.symbols.find? (·.primitive.name == name)

/-- The symbols that the prologue declares and the linker takes from the runtime. -/
def externals (backend : Backend) : List Symbol :=
  backend.symbols.filter (·.linkage == .c)

def call (backend : Backend) (primitive : Primitive) (arguments : List String) :
    Except Error String :=
  let symbol := backend.symbol primitive
  let expected := symbol.signature.params.length
  if arguments.length = expected then
    .ok (symbol.name ++ "(" ++ ", ".intercalate arguments ++ ")")
  else .error (.wrongArity symbol.name expected arguments.length)

end Backend

end PortableC
