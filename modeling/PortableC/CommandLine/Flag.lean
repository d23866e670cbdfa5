namespace PortableC

/-! The flags of the command line, and the commands that take them. -/

inductive Flag where
  | toolchain
  | dialect
  | allocator
  | signature
  | noHandle
  | guard
  | noBanner
  | config
  | output
  | color
  | json
  | help
deriving DecidableEq, Repr

namespace Flag

def longName : Flag → String
  | toolchain => "toolchain"
  | dialect => "dialect"
  | allocator => "allocator"
  | signature => "fn-ref"
  | noHandle => "no-opaque-fn-ref"
  | guard => "header-guard"
  | noBanner => "no-banner"
  | config => "config"
  | output => "output"
  | color => "color"
  | json => "json"
  | help => "help"

def letter? : Flag → Option Char
  | toolchain => some 't'
  | config => some 'c'
  | output => some 'o'
  | help => some 'h'
  | _ => none

/-- Options take a value, switches do not. -/
def takesValue : Flag → Bool
  | noHandle | noBanner | json | help => false
  | _ => true

def mayRepeat : Flag → Bool
  | signature => true
  | _ => false

/-- Some options have fixed choices, and a path cannot be empty. -/
def allowsValue (flag : Flag) (value : String) : Bool :=
  match flag with
  | dialect => ["c", "c++"].contains value
  | color => ["auto", "always", "never"].contains value
  | config | output => !value.isEmpty
  | _ => true

end Flag

inductive CommandName where
  | emit
  | probe
  | symbols
  | types
deriving DecidableEq, Repr

namespace CommandName

def all : List CommandName :=
  [.emit, .probe, .symbols, .types]

def word : CommandName → String
  | emit => "emit"
  | probe => "probe"
  | symbols => "symbols"
  | types => "types"

def ofWord? (word : String) : Option CommandName :=
  all.find? (·.word == word)

def targetFlags : List Flag :=
  [.toolchain, .dialect, .allocator, .signature, .noHandle, .guard, .noBanner, .config]

def flags : CommandName → List Flag
  | emit => targetFlags ++ [.output, .color, .help]
  | probe => targetFlags ++ [.output, .help]
  | symbols => targetFlags ++ [.json, .help]
  | types => [.toolchain, .config, .json, .help]

end CommandName

end PortableC
