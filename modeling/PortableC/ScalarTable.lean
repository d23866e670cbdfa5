import PortableC.Json
import PortableC.Text.Blank
import PortableC.Text.Column
import PortableC.Toolchain

namespace PortableC

/-! The table of scalar types with their sizes and their native spellings on any
number of toolchains. -/

open Text (padLeft padRight trimmedEnd)

structure NativeSpelling where
  toolchain : Toolchain
  spelling : String
deriving DecidableEq, Repr

structure ScalarRow where
  scalar : Scalar
  native : List NativeSpelling
deriving DecidableEq, Repr

/-- The spelling behind a scalar type; `i1` is shown as the boolean of C++. -/
def Toolchain.scalarSpelling (toolchain : Toolchain) : Scalar → String
  | .bool => "bool"
  | .int type => toolchain.spelling type

namespace ScalarRow

def of (toolchains : List Toolchain) (scalar : Scalar) : ScalarRow :=
  { scalar
    native := toolchains.map fun toolchain =>
      { toolchain, spelling := toolchain.scalarSpelling scalar } }

/-- Three narrow columns, then one of a fixed width for each further text. -/
def cells (name bits bytes : String) (rest : List String) : String :=
  padRight 6 name ++ padLeft 5 bits ++ padLeft 7 bytes ++
    String.join (rest.map fun text => "  " ++ padRight 20 text)

def line (row : ScalarRow) : String :=
  cells row.scalar.name (toString row.scalar.valueBits) (toString row.scalar.sizeBytes)
    (row.native.map (·.spelling))

def toJson (row : ScalarRow) : Json :=
  .object
    [("alias", .string row.scalar.name), ("bits", .number row.scalar.valueBits),
      ("storage_bytes", .number row.scalar.sizeBytes), ("signed", .bool row.scalar.signed),
      ("native", .array (row.native.map fun native =>
        .object [("toolchain", .string native.toolchain.name),
          ("spelling", .string native.spelling)]))]

end ScalarRow

namespace ScalarTable

def rows (toolchains : List Toolchain) : List ScalarRow :=
  Scalar.all.map (ScalarRow.of toolchains)

def headerLine (toolchains : List Toolchain) : String :=
  ScalarRow.cells "alias" "bits" "bytes" (toolchains.map Toolchain.name)

def report (toolchains : List Toolchain) (rows : List ScalarRow) : String :=
  String.join ((headerLine toolchains :: rows.map ScalarRow.line).map fun line =>
    trimmedEnd line ++ "\n")

def toJson (rows : List ScalarRow) : Json :=
  .array (rows.map ScalarRow.toJson)

end ScalarTable

end PortableC
