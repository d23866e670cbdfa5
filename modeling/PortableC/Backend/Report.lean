import PortableC.Backend
import PortableC.Json
import PortableC.Text.Column

namespace PortableC

/-! The symbols of a backend as users see them, as a text table and as JSON. -/

open Text (padRight)

namespace Symbol

def tableLine (symbol : Symbol) : String :=
  "  " ++ padRight 8 symbol.primitive.name ++ " -> " ++ padRight 18 symbol.name ++ " " ++
    padRight 16 symbol.linkage.label ++ " " ++ symbol.signature.spelling ++ "\n"

def toJson (symbol : Symbol) : Json :=
  .object
    [("primitive", .string symbol.primitive.key), ("name", .string symbol.name),
      ("signature", .string symbol.signature.spelling), ("linkage", .string symbol.linkage.key)]

end Symbol

namespace Backend

def report (backend : Backend) : String :=
  "toolchain: " ++ backend.toolchain.name ++ "\n" ++
    String.join (backend.symbols.map Symbol.tableLine)

def toJson (backend : Backend) : Json :=
  .object
    [("toolchain", .string backend.toolchain.name),
      ("entries", .object (backend.symbols.map fun symbol =>
        (symbol.primitive.key, symbol.toJson)))]

end Backend

end PortableC
