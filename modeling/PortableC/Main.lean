import PortableC.Command

namespace PortableC

/-! The program itself: the only module that touches files and streams. -/

def usageText : String :=
  "Toolchain-portable type and primitive prologue for generated C/C++\n\n" ++
  "Usage: emit [TARGET] [-o FILE] [--color auto|always|never]\n" ++
  "       probe [TARGET] [-o FILE]\n" ++
  "       symbols [TARGET] [--json]\n" ++
  "       types [-t TOOLCHAIN] [-c FILE] [--json]\n\n" ++
  "TARGET: -t TOOLCHAIN --dialect c|c++ --allocator SYMBOL --fn-ref SIGNATURE\n" ++
  "        --no-opaque-fn-ref --header-guard MACRO --no-banner -c FILE\n"

/-- Whether a system call has failed with the given code, which some calls report
with the opposite sign. -/
def hasCode (code expected : UInt32) : Bool :=
  code == expected || code == 0 - expected

def faultOfError (error : IO.Error) : FileFault :=
  match error with
  | .noFileOrDirectory _ _ _ => .notFound
  | .inappropriateType _ code _ | .invalidArgument _ code _ =>
      if hasCode code 20 then .notADirectory
      else if hasCode code 21 then .isADirectory
      else if hasCode code 36 then .nameTooLong
      else .other error.toString
  | .permissionDenied _ _ _ => .other "Permission denied (os error 13)"
  | _ => .other error.toString

def readFile (path : String) : IO (Except FileFault String) := do
  try
    let bytes ← IO.FS.readBinFile path
    match String.fromUTF8? bytes with
    | some text => return .ok text
    | none => return .error .notUtf8
  catch error => return .error (faultOfError error)

def writeFile (path text : String) : IO Outcome := do
  try
    IO.FS.writeFile path text
    return .printed ""
  catch error => return .cannotWrite path (faultOfError error)

/-- Reads the settings file, if the command has one, runs the command, and writes
what it has produced. -/
def runCommand (command : Command) : IO Outcome := do
  let stdout ← IO.getStdout
  let stderr ← IO.getStderr
  let terminal := (← stdout.isTty) && (← stderr.isTty)
  let content ← match command.config? with
    | some path => readFile path
    | none => pure (.error .notFound)
  match command.output terminal fun _ => content with
  | .error error => return .failed error.message
  | .ok { destination := none, text } => return .printed text
  | .ok { destination := some path, text } => writeFile path text

end PortableC

def main (words : List String) : IO UInt32 := do
  match PortableC.Command.parse words with
  | .error usage =>
      if usage = .help then IO.print PortableC.usageText else IO.eprint PortableC.usageText
      return usage.exitCode.toUInt32
  | .ok command =>
      let outcome ← PortableC.runCommand command
      IO.print outcome.stdout
      IO.eprint outcome.stderr
      return outcome.exitCode.toUInt32
