import PortableC.FileFault
import PortableC.Settings.Misfit
import PortableC.Signature

namespace PortableC

/-! Everything that can go wrong between the description of a target and its
prologue, as causes, and the one place where the causes get their wording. -/

inductive SignatureFault where
  | missingOpen
  | missingClose
  | nestedParentheses
  | missingReturnType
  | misplacedEllipsis
  | voidParameter
deriving DecidableEq, Repr

def SignatureFault.message : SignatureFault → String
  | .missingOpen => "missing `(`"
  | .missingClose => "missing closing `)`"
  | .nestedParentheses => "nested parentheses"
  | .missingReturnType => "missing return type"
  | .misplacedEllipsis => "`...` must be the last parameter"
  | .voidParameter => "`void` cannot be a parameter type"

inductive Error where
  | noToolchain
  | gnuTooOld (major minimum : Nat)
  | unknownToolchain (text : String)
  | unknownDialect (text : String)
  | notAType (text : String)
  | notASignature (text : String) (fault : SignatureFault)
  | notAnIdentifier (name : String)
  | wrongArity (symbol : String) (expected found : Nat)
  | returnMismatch (name : String) (expected found : CType)
  | signatureMismatch (name : String) (expected found : Signature)
  | argumentMismatch (name : String) (callee : Signature) (arguments : List CType)
  | missingDescriptor (name : String)
  | unknownReference (id : Nat)
  | settingsNotToml
  | settingsMisfit (misfit : Misfit)
  | unreadable (path : String) (fault : FileFault)
deriving DecidableEq, Repr

namespace Error

def message : Error → String
  | noToolchain =>
      "unresolved toolchain: none of the recognized toolchains (msvc, gnu) was identified"
  | gnuTooOld major minimum =>
      "gnu toolchain major version " ++ toString major ++ " is not supported (minimum is " ++
        toString minimum ++ ")"
  | unknownToolchain text =>
      "unknown toolchain `" ++ text ++ "` (expected msvc, gnu, gcc, clang or gnu-<major>)"
  | unknownDialect text => "unknown dialect `" ++ text ++ "` (expected c or c++)"
  | notAType text => "invalid type `" ++ text ++ "`"
  | notASignature text fault => "invalid signature `" ++ text ++ "`: " ++ fault.message
  | notAnIdentifier name => "`" ++ name ++ "` is not a valid C identifier"
  | wrongArity symbol expected found =>
      "`" ++ symbol ++ "` takes " ++ toString expected ++ " argument(s), found " ++ toString found
  | returnMismatch name expected found =>
      "function reference `" ++ name ++ "` returns " ++ expected.spelling ++
        ", cannot hold a function returning " ++ found.spelling
  | signatureMismatch name expected found =>
      "function reference `" ++ name ++ "` has signature " ++ expected.spelling ++
        ", found " ++ found.spelling
  | argumentMismatch name callee arguments =>
      "call through `" ++ name ++ "`: expected (" ++ callee.parameterText ++ "), found (" ++
        ", ".intercalate (arguments.map CType.spelling) ++ ")"
  | missingDescriptor name =>
      "call through opaque function reference `" ++ name ++ "` needs a signature descriptor"
  | unknownReference id => "unknown function reference #" ++ toString id
  | settingsNotToml => "invalid target settings: not a TOML document"
  | settingsMisfit misfit => "invalid target settings: " ++ misfit.message
  | unreadable path fault => "failed to read " ++ path ++ ": " ++ fault.message

end Error

end PortableC
