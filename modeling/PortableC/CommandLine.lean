import PortableC.CommandLine.Scan
import PortableC.Settings

namespace PortableC

/-! Command lines: the commands, and how words ask for them. -/

/-- A settings file, if any, and the settings on top of it. -/
structure TargetFlags where
  config : Option String := none
  overrides : Settings := {}
deriving DecidableEq, Repr

inductive ColorChoice where
  /-- Colours on a terminal only. -/
  | auto
  | always
  | never
deriving DecidableEq, Repr

def ColorChoice.ofWord : String → ColorChoice
  | "always" => .always
  | "never" => .never
  | _ => .auto

def ColorChoice.allows (terminal : Bool) : ColorChoice → Bool
  | .auto => terminal
  | .always => true
  | .never => false

inductive Command where
  | emit (flags : TargetFlags) (output : Option String) (color : ColorChoice)
  | probe (flags : TargetFlags) (output : Option String)
  | symbols (flags : TargetFlags) (json : Bool)
  | types (flags : TargetFlags) (json : Bool)
deriving DecidableEq, Repr

namespace Given

def values (flag : Flag) (given : List Given) : List String :=
  (given.filter (·.flag == flag)).filterMap (·.value)

def value? (flag : Flag) (given : List Given) : Option String :=
  (values flag given).head?

def has (flag : Flag) (given : List Given) : Bool :=
  given.any (·.flag == flag)

/-- A switch only ever turns something off, and leaves it open otherwise. -/
def switchedOff (flag : Flag) (given : List Given) : Option Bool :=
  if has flag given then some false else none

def targetFlags (given : List Given) : TargetFlags :=
  { config := value? .config given
    overrides :=
      { toolchain := value? .toolchain given
        dialect := value? .dialect given
        allocator := value? .allocator given
        handle := switchedOff .noHandle given
        guard := value? .guard given
        banner := switchedOff .noBanner given
        signatures := values .signature given } }

def color (given : List Given) : ColorChoice :=
  match value? .color given with
  | some word => .ofWord word
  | none => .auto

end Given

namespace Command

def ofGiven (given : List Given) : CommandName → Command
  | .emit => .emit (Given.targetFlags given) (Given.value? .output given) (Given.color given)
  | .probe => .probe (Given.targetFlags given) (Given.value? .output given)
  | .symbols => .symbols (Given.targetFlags given) (Given.has .json given)
  | .types => .types (Given.targetFlags given) (Given.has .json given)

def isTopic (word : String) : Bool :=
  word == "help" || (CommandName.ofWord? word).isSome

/-- After `help` comes the name of one command, or nothing. -/
def parseHelp : List String → Usage
  | [] => .help
  | [word] => if isTopic word then .help else .unknownCommand
  | _ => .unknownCommand

/-- A flag in front of the command: only help is asked for there. -/
def parseLeadingFlag (word : String) : Usage :=
  match WordForm.of word with
  | .long "help" none => .help
  | .long "help" (some _) => .needlessValue
  | .cluster 'h' _ => .help
  | _ => .unknownArgument

def parse : List String → Except Usage Command
  | [] => .error .nothingAsked
  | word :: rest =>
      match WordForm.of word with
      | .separator =>
          match rest with
          | [] => .error .nothingAsked
          | next :: _ => .error (if isTopic next then .unknownArgument else .unknownCommand)
      | .plain =>
          if word = "help" then .error (parseHelp rest)
          else
            match CommandName.ofWord? word with
            | none => .error .unknownCommand
            | some name => do
                let given ← Scan.words name.flags {} rest
                .ok (ofGiven given name)
      | _ => .error (parseLeadingFlag word)

end Command

end PortableC
