import PortableC.Scalar

namespace PortableC

/-! The supported compiler families and their own spellings of the integer types. -/

inductive Toolchain where
  /-- Microsoft's front end, with `__int` keywords. -/
  | msvc
  /-- The GNU front end, also that of clang, with conventional keywords. -/
  | gnu
deriving DecidableEq, Repr

namespace Toolchain

def all : List Toolchain :=
  [.msvc, .gnu]

def name : Toolchain → String
  | .msvc => "msvc"
  | .gnu => "gnu"

def identityMacro : Toolchain → String
  | .msvc => "_MSC_VER"
  | .gnu => "__GNUC__"

/-- The keywords behind an integer type.  GNU spells the sign of `char` out, since
that of a plain `char` depends on the machine. -/
def spelling : Toolchain → IntType → String
  | .msvc, .i8 => "__int8"
  | .msvc, .i16 => "__int16"
  | .msvc, .i32 => "__int32"
  | .msvc, .i64 => "__int64"
  | .msvc, .u8 => "unsigned __int8"
  | .msvc, .u16 => "unsigned __int16"
  | .msvc, .u32 => "unsigned __int32"
  | .msvc, .u64 => "unsigned __int64"
  | .gnu, .i8 => "signed char"
  | .gnu, .i16 => "short"
  | .gnu, .i32 => "int"
  | .gnu, .i64 => "long long"
  | .gnu, .u8 => "unsigned char"
  | .gnu, .u16 => "unsigned short"
  | .gnu, .u32 => "unsigned int"
  | .gnu, .u64 => "unsigned long long"

end Toolchain

end PortableC
