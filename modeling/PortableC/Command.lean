import PortableC.Backend.Report
import PortableC.CheckUnit
import PortableC.CommandLine
import PortableC.FileTree
import PortableC.HeaderGuard
import PortableC.ScalarTable
import PortableC.Settings.Document

namespace PortableC

/-! What the commands do.  A command reads at most one settings file and produces
one text, which goes to a file or to the standard output. -/

abbrev FileReader := String → Except FileFault String

structure Output where
  /-- The file the text goes to; the standard output if there is none. -/
  destination : Option String := none
  text : String
deriving DecidableEq, Repr

namespace TargetFlags

/-- The settings file, if there is one, with the flags on top. -/
def settings (flags : TargetFlags) (read : FileReader) : Except Error Settings := do
  let base ← match flags.config with
    | some path => Settings.load read path
    | none => .ok {}
  .ok (base.overlay flags.overrides)

def prologue (flags : TargetFlags) (read : FileReader) : Except Error Prologue := do
  let settings ← flags.settings read
  settings.prologue

end TargetFlags

namespace Settings

/-- Settings with the guard that follows from the output file, unless they name one. -/
def withGuardFor (settings : Settings) (output : Option String) : Settings :=
  { settings with guard := settings.guard.or (output.bind HeaderGuard.ofPath) }

/-- The toolchain that the settings name, or all if they name none. -/
def shownToolchains (settings : Settings) : Except Error (List Toolchain) :=
  match settings.toolchain with
  | none => .ok Toolchain.all
  | some name => do
      let compiler ← Compiler.parse name
      let toolchain ← compiler.toolchain
      .ok [toolchain]

end Settings

namespace Command

/-- Files never get colours. -/
def usesColor (terminal : Bool) (output : Option String) (color : ColorChoice) : Bool :=
  output.isNone && color.allows terminal

def emitOutput (flags : TargetFlags) (output : Option String) (colored : Bool)
    (read : FileReader) : Except Error Output := do
  let settings ← flags.settings read
  let prologue ← (settings.withGuardFor output).prologue
  .ok { destination := output, text := prologue.coloredText colored }

def probeOutput (flags : TargetFlags) (output : Option String) (read : FileReader) :
    Except Error Output := do
  let prologue ← flags.prologue read
  let text ← prologue.checkUnit
  .ok { destination := output, text }

def symbolsOutput (flags : TargetFlags) (json : Bool) (read : FileReader) :
    Except Error Output := do
  let prologue ← flags.prologue read
  let backend := prologue.backend
  .ok { text := if json then backend.toJson.pretty ++ "\n" else backend.report }

def typesOutput (flags : TargetFlags) (json : Bool) (read : FileReader) :
    Except Error Output := do
  let settings ← flags.settings read
  let toolchains ← settings.shownToolchains
  let rows := ScalarTable.rows toolchains
  .ok { text :=
    if json then (ScalarTable.toJson rows).pretty ++ "\n" else ScalarTable.report toolchains rows }

/-- What a command produces, where `terminal` says whether its output is watched. -/
def output (terminal : Bool) (read : FileReader) : Command → Except Error Output
  | emit flags output color => emitOutput flags output (usesColor terminal output color) read
  | probe flags output => probeOutput flags output read
  | symbols flags json => symbolsOutput flags json read
  | types flags json => typesOutput flags json read

def config? : Command → Option String
  | emit flags _ _ | probe flags _ | symbols flags _ | types flags _ => flags.config

end Command

structure Outcome where
  exitCode : Nat
  stdout : String := ""
  stderr : String := ""
deriving DecidableEq, Repr

namespace Outcome

def printed (text : String) : Outcome :=
  { exitCode := 0, stdout := text }

def failed (message : String) : Outcome :=
  { exitCode := 1, stderr := "error: " ++ message ++ "\n" }

def cannotWrite (path : String) (fault : FileFault) : Outcome :=
  failed ("cannot write " ++ path ++ ": " ++ fault.message)

end Outcome

/-- A run of a command in a working directory, away from any terminal. -/
def Command.run (command : Command) (files : FileTree) : Outcome × FileTree :=
  match command.output false files.readText with
  | .error error => (.failed error.message, files)
  | .ok { destination := none, text } => (.printed text, files)
  | .ok { destination := some path, text } =>
      match files.writeText path text with
      | .ok after => (.printed "", after)
      | .error fault => (.cannotWrite path fault, files)

def runProgram (words : List String) (files : FileTree) : Except Usage (Outcome × FileTree) :=
  (Command.parse words).map fun command => command.run files

end PortableC
