import PortableC.Error
import PortableC.FunctionRef

namespace PortableC

/-! Checks on generated code that stores functions in references and calls them. -/

namespace FunctionRef

def checkStore (ref : FunctionRef) (source : Signature) : Except Error Unit :=
  match ref.kind with
  | .typed =>
      if ref.signature = source then .ok ()
      else .error (.signatureMismatch ref.name ref.signature source)
  | .handle =>
      if ref.signature.ret = source.ret then .ok ()
      else .error (.returnMismatch ref.name ref.signature.ret source.ret)

def checkArguments (ref : FunctionRef) (callee : Signature) (arguments : List CType) :
    Except Error Unit :=
  if callee.admits arguments then .ok ()
  else .error (.argumentMismatch ref.name callee arguments)

end FunctionRef

namespace FunctionRefs

def find (refs : FunctionRefs) (id : Nat) : Except Error FunctionRef :=
  match refs.get? id with
  | some ref => .ok ref
  | none => .error (.unknownReference id)

def checkStore (refs : FunctionRefs) (id : Nat) (source : Signature) : Except Error Unit := do
  let ref ← refs.find id
  ref.checkStore source

/-- A call through a reference whose type says which function is behind it. -/
def checkTypedCall (refs : FunctionRefs) (id : Nat) (arguments : List CType) :
    Except Error Unit := do
  let ref ← refs.find id
  match ref.kind with
  | .typed => ref.checkArguments ref.signature arguments
  | .handle => .error (.missingDescriptor ref.name)

/-- A call through any reference, with the signature of the function behind it. -/
def checkDescribedCall (refs : FunctionRefs) (id : Nat) (descriptor : Signature)
    (arguments : List CType) : Except Error Unit := do
  let ref ← refs.find id
  ref.checkStore descriptor
  ref.checkArguments descriptor arguments

end FunctionRefs

end PortableC
