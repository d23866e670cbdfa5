import PortableC.Prologue

namespace PortableC

/-! The check unit: a source file that confirms, when it is compiled for the target,
the prologue in front of it.  Every scalar type must have its size, the primitives
must resolve to their symbols, and the handle must hold a function. -/

namespace CheckUnit

/-- Headers that declare symbols which the prologue leaves to the runtime. -/
def includeLines (backend : Backend) : List String :=
  (backend.symbols.filter (·.linkage == .runtimeHeader)).map fun symbol =>
    "#include <" ++ symbol.primitive.header ++ ">"

def sizeLine (scalar : Scalar) : String :=
  "typedef char " ++ checkUnitName ++ "_size_" ++ scalar.name ++
    "[(sizeof(" ++ scalar.name ++ ") == " ++ toString scalar.sizeBytes ++ ") ? 1 : -1];"

def sizeLines : List String :=
  "/* a negative array size fails the build */" :: Scalar.all.map sizeLine

/-- The conversion to the handle's type, which only C++ wants to be written out. -/
def handleCast (name : String) : Dialect → String
  | .c => ""
  | .cxx => "(" ++ name ++ ")"

def handleLines (name : String) (dialect : Dialect) : List String :=
  ["static i32 " ++ checkUnitName ++
      "_callee(i32 value, u8* data) \x7b (void)data; return value; \x7d",
    name ++ " " ++ checkUnitName ++ "_handle = " ++ handleCast name dialect ++ checkUnitName ++
      "_callee;",
    ""]

def callLines (fillCall allocateCall : String) : List String :=
  ["void* " ++ checkUnitName ++ "(u8* buffer, u32 size)",
    "\x7b",
    "    " ++ fillCall ++ ";",
    "    return " ++ allocateCall ++ ";",
    "\x7d"]

def joinLines (lines : List String) : String :=
  String.join (lines.map (· ++ "\n"))

/-- The includes, set apart by a blank line if there are any. -/
def header (backend : Backend) : String :=
  let lines := includeLines backend
  joinLines (if lines.isEmpty then [] else lines ++ [""])

def checks (prologue : Prologue) : Except Error String := do
  let fillCall ← prologue.backend.call .fillMemory ["buffer", "0", "size"]
  let allocateCall ← prologue.backend.call .allocate ["size"]
  let handle := match prologue.functionRefs.handle? with
    | none => []
    | some ref => handleLines ref.name prologue.dialect
  .ok (joinLines (sizeLines ++ [""] ++ handle ++ callLines fillCall allocateCall))

end CheckUnit

def Prologue.checkUnit (prologue : Prologue) : Except Error String := do
  let checks ← CheckUnit.checks prologue
  .ok (CheckUnit.header prologue.backend ++ prologue.text ++ "\n" ++ checks)

end PortableC
