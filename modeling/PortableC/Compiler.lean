import PortableC.Decimal.Numeral
import PortableC.Error
import PortableC.Text.Blank
import PortableC.Toolchain

namespace PortableC

/-! The compiler that a user names or that identifies itself.  It may be unknown, or
too old to stand for a supported toolchain. -/

inductive Compiler where
  | msvc
  | gnu (major : UInt32)
  | unknown
deriving DecidableEq, Repr

/-- The macros by which compilers identify themselves, as far as they are defined. -/
structure IdentityMacros where
  mscVer : Option UInt32 := none
  gnuc : Option UInt32 := none
deriving DecidableEq, Repr

/-- Microsoft's macro wins, since its front end may define both. -/
def IdentityMacros.compiler (macros : IdentityMacros) : Compiler :=
  match macros.mscVer, macros.gnuc with
  | some _, _ => .msvc
  | none, some major => .gnu major
  | none, none => .unknown

namespace Compiler

/-- The oldest GNU front end whose integer keywords are relied on. -/
def leastGnuMajor : UInt32 := 3

/-- The GNU version that clang claims to be. -/
def clangMajor : UInt32 := 4

def spelling : Compiler → String
  | msvc => "msvc"
  | gnu major => "gnu-" ++ toString major.toNat
  | unknown => "unknown"

def toolchain : Compiler → Except Error Toolchain
  | msvc => .ok .msvc
  | gnu major =>
      if leastGnuMajor ≤ major then .ok .gnu
      else .error (.gnuTooOld major.toNat leastGnuMajor.toNat)
  | unknown => .error .noToolchain

def versionedMajor? : List Char → Option UInt32
  | 'g' :: 'n' :: 'u' :: '-' :: numeral
  | 'g' :: 'c' :: 'c' :: '-' :: numeral =>
      (Decimal.readBelow? UInt32.size numeral).map UInt32.ofNat
  | _ => none

def ofLowerCase? (name : String) : Option Compiler :=
  match name with
  | "msvc" | "cl" => some .msvc
  | "gnu" | "gcc" => some (.gnu leastGnuMajor)
  | "clang" => some (.gnu clangMajor)
  | _ => (versionedMajor? name.toList).map .gnu

/-- Names are read without regard to case or to blanks around them. -/
def parse (text : String) : Except Error Compiler :=
  match ofLowerCase? ((Text.trimmed text).map Char.toLower) with
  | some compiler => .ok compiler
  | none => .error (.unknownToolchain text)

end Compiler

end PortableC
