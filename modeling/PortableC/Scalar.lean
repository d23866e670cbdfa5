namespace PortableC

/-! The scalar types of generated code, which are the boolean `i1` and eight
integer types of fixed width, under their short names. -/

structure UnknownScalar where
  name : String
deriving DecidableEq, Repr

def UnknownScalar.message (unknown : UnknownScalar) : String :=
  "unknown canonical type `" ++ unknown.name ++ "`"

inductive IntType where
  | i8
  | i16
  | i32
  | i64
  | u8
  | u16
  | u32
  | u64
deriving DecidableEq, Repr, Ord

namespace IntType

def all : List IntType :=
  [.i8, .i16, .i32, .i64, .u8, .u16, .u32, .u64]

def bits : IntType → Nat
  | .i8 | .u8 => 8
  | .i16 | .u16 => 16
  | .i32 | .u32 => 32
  | .i64 | .u64 => 64

def signed : IntType → Bool
  | .i8 | .i16 | .i32 | .i64 => true
  | .u8 | .u16 | .u32 | .u64 => false

def stdintName : IntType → String
  | .i8 => "int8_t"
  | .i16 => "int16_t"
  | .i32 => "int32_t"
  | .i64 => "int64_t"
  | .u8 => "uint8_t"
  | .u16 => "uint16_t"
  | .u32 => "uint32_t"
  | .u64 => "uint64_t"

def name : IntType → String
  | .i8 => "i8"
  | .i16 => "i16"
  | .i32 => "i32"
  | .i64 => "i64"
  | .u8 => "u8"
  | .u16 => "u16"
  | .u32 => "u32"
  | .u64 => "u64"

def ofName? (name : String) : Option IntType :=
  all.find? (·.name == name)

def parse (name : String) : Except UnknownScalar IntType :=
  match ofName? name with
  | some type => .ok type
  | none => .error { name }

theorem mem_all (type : IntType) : type ∈ all := by
  cases type <;> decide

theorem name_injective {first second : IntType} (same : first.name = second.name) :
    first = second := by
  cases first <;> cases second <;> first | rfl | exact absurd same (by decide)

end IntType

inductive Scalar where
  /-- One bit of logical state in the native boolean. -/
  | bool
  | int (type : IntType)
deriving DecidableEq, Repr, Ord

namespace Scalar

def all : List Scalar :=
  .bool :: IntType.all.map .int

def name : Scalar → String
  | .bool => "i1"
  | .int type => type.name

def valueBits : Scalar → Nat
  | .bool => 1
  | .int type => type.bits

/-- A boolean takes one byte on every toolchain. -/
def sizeBits : Scalar → Nat
  | .bool => 8
  | .int type => type.bits

def sizeBytes (scalar : Scalar) : Nat :=
  scalar.sizeBits / 8

def signed : Scalar → Bool
  | .bool => false
  | .int type => type.signed

def intType? : Scalar → Option IntType
  | .bool => none
  | .int type => some type

def ofName? (name : String) : Option Scalar :=
  all.find? (·.name == name)

def parse (name : String) : Except UnknownScalar Scalar :=
  match ofName? name with
  | some scalar => .ok scalar
  | none => .error { name }

theorem mem_all (scalar : Scalar) : scalar ∈ all := by
  cases scalar with
  | bool => decide
  | int type => cases type <;> decide

theorem name_injective {first second : Scalar} (same : first.name = second.name) :
    first = second := by
  rcases first with _ | first <;> rcases second with _ | second
  · rfl
  · cases second <;> exact absurd same (by decide)
  · cases first <;> exact absurd same (by decide)
  · exact congrArg _ (IntType.name_injective same)

end Scalar

end PortableC
