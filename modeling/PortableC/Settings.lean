import PortableC.Signature.Parser
import PortableC.Target

namespace PortableC

/-! The description of a target as users write it: every part may be left open, and
nothing has been checked yet. -/

structure Settings where
  toolchain : Option String := none
  dialect : Option String := none
  allocator : Option String := none
  handle : Option Bool := none
  guard : Option String := none
  banner : Option Bool := none
  signatures : List String := []
deriving DecidableEq, Repr

namespace Settings

/-- Settings with others on top of them.  What the upper ones set wins, and
signatures accumulate. -/
def overlay (lower upper : Settings) : Settings :=
  { toolchain := upper.toolchain.or lower.toolchain
    dialect := upper.dialect.or lower.dialect
    allocator := upper.allocator.or lower.allocator
    handle := upper.handle.or lower.handle
    guard := upper.guard.or lower.guard
    banner := upper.banner.or lower.banner
    signatures := lower.signatures ++ upper.signatures }

def overlayAll (layers : List Settings) : Settings :=
  layers.foldl overlay {}

def compiler (settings : Settings) : Except Error Compiler :=
  match settings.toolchain with
  | some name => Compiler.parse name
  | none => .ok .unknown

def dialectOrDefault (settings : Settings) : Except Error Dialect :=
  match settings.dialect with
  | some name => Dialect.parse name
  | none => .ok .cxx

/-- Reads the toolchain, then the dialect, then the signatures from the first to
the last. -/
def target (settings : Settings) : Except Error Target := do
  let compiler ← settings.compiler
  let dialect ← settings.dialectOrDefault
  let signatures ← settings.signatures.mapM Signature.parse
  .ok
    { compiler, dialect, signatures
      allocator := settings.allocator
      handle := settings.handle.getD true
      guard := settings.guard
      banner := settings.banner.getD true }

def prologue (settings : Settings) : Except Error Prologue := do
  let target ← settings.target
  target.prologue

end Settings

end PortableC
