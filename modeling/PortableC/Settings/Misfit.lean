import PortableC.Toml.Value

namespace PortableC

/-! Why a well-formed document does not describe a target. -/

inductive ExpectedKind where
  | string
  | boolean
  | sequence
deriving DecidableEq, Repr

def ExpectedKind.description : ExpectedKind → String
  | .string => "a string"
  | .boolean => "a boolean"
  | .sequence => "a sequence"

inductive Misfit where
  | unknownKey (key : String)
  | wrongKind (found : Toml.Shape) (expected : ExpectedKind)
deriving DecidableEq, Repr

/-- The keys a settings document may have, as messages list them. -/
def settingsKeys : List String :=
  ["toolchain", "dialect", "allocator", "opaque-fn-ref", "header-guard", "banner", "fn-refs"]

def Misfit.message : Misfit → String
  | .unknownKey key =>
      "unknown field `" ++ key ++ "`, expected one of " ++
        ", ".intercalate (settingsKeys.map fun known => "`" ++ known ++ "`")
  | .wrongKind found expected =>
      "invalid type: " ++ found.description ++ ", expected " ++ expected.description

end PortableC
