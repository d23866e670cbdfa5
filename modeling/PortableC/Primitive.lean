import PortableC.Signature

namespace PortableC

/-! The operations that generated code calls by a fixed name, whatever symbol turns
out to be behind it. -/

inductive Primitive where
  /-- Fills `count` bytes at `dst` with `value` and returns `dst`. -/
  | fillMemory
  /-- Allocates `size` bytes and returns the new block. -/
  | allocate
deriving DecidableEq, Repr

namespace Primitive

def all : List Primitive :=
  [.fillMemory, .allocate]

def name : Primitive → String
  | .fillMemory => "memset"
  | .allocate => "calloc"

def key : Primitive → String
  | .fillMemory => "fill-memory"
  | .allocate => "allocate"

def header : Primitive → String
  | .fillMemory => "string.h"
  | .allocate => "stdlib.h"

def signature : Primitive → Signature
  | .fillMemory =>
      { ret := .voidPointer, params := [.voidPointer, .int .i32, .int .u32] }
  | .allocate => { ret := .voidPointer, params := [.int .u32] }

end Primitive

inductive Linkage where
  /-- Declared by the prologue under its plain name, and defined by the runtime. -/
  | c
  /-- Built into the compiler, which declares it implicitly. -/
  | builtin
  /-- Declared by a header of the runtime. -/
  | runtimeHeader
deriving DecidableEq, Repr

namespace Linkage

def key : Linkage → String
  | .c => "c"
  | .builtin => "builtin"
  | .runtimeHeader => "runtime-header"

def label : Linkage → String
  | .c => "extern C"
  | .builtin => "builtin"
  | .runtimeHeader => "runtime header"

end Linkage

structure Symbol where
  primitive : Primitive
  name : String
  linkage : Linkage
deriving DecidableEq, Repr

def Symbol.signature (symbol : Symbol) : Signature :=
  symbol.primitive.signature

end PortableC
