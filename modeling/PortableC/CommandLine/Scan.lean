import PortableC.CommandLine.Flag

namespace PortableC

/-! From the words of a command line to the flags they give, from left to right. -/

inductive Usage where
  | help
  | nothingAsked
  | unknownCommand
  | unknownArgument
  | invalidValue
  | repeatedArgument
  | needlessValue
deriving DecidableEq, Repr

/-- Asking for help is no failure. -/
def Usage.exitCode : Usage → Nat
  | .help => 0
  | _ => 2

structure Given where
  flag : Flag
  value : Option String := none
deriving DecidableEq, Repr

inductive WordForm where
  | separator
  | long (name : String) (value : Option String)
  | cluster (letter : Char) (rest : List Char)
  | plain
deriving DecidableEq, Repr

def WordForm.of (word : String) : WordForm :=
  match word.toList with
  | ['-', '-'] => .separator
  | '-' :: '-' :: text =>
      let name := String.ofList (text.takeWhile (· != '='))
      match text.dropWhile (· != '=') with
      | [] => .long name none
      | _ :: value => .long name (some (String.ofList value))
  | '-' :: letter :: rest => .cluster letter rest
  | _ => .plain

/-- A value written right after a letter, with or without an equals sign. -/
def attachedValue : List Char → Option String
  | [] => none
  | '=' :: value => some (String.ofList value)
  | value => some (String.ofList value)

/-- The flags given so far, and the option that was given last, whose value may
still be missing.  That option is checked when the next flag or the end shows that
nothing more belongs to it. -/
structure Scan where
  given : List Given := []
  pending : Option Given := none
deriving DecidableEq, Repr

namespace Scan

/-- Adds a flag: an option needs a value, most flags come once, and the value must
be one the option allows. -/
def accept (given : List Given) (next : Given) : Except Usage (List Given) :=
  if next.flag.takesValue && next.value.isNone then .error .invalidValue
  else if !next.flag.mayRepeat && given.any (·.flag == next.flag) then .error .repeatedArgument
  else if !(next.value.all next.flag.allowsValue) then .error .invalidValue
  else .ok (given ++ [next])

def settle (scan : Scan) : Except Usage (List Given) :=
  match scan.pending with
  | none => .ok scan.given
  | some next => accept scan.given next

/-- An option without a value waits for the next word; everything else is added
at once. -/
def addOption (scan : Scan) (flag : Flag) (value : Option String) : Except Usage Scan := do
  let given ← scan.settle
  match value with
  | none => .ok { given, pending := some { flag } }
  | some value => do
      let given ← accept given { flag, value := some value }
      .ok { given }

def addSwitch (scan : Scan) (flag : Flag) : Except Usage Scan := do
  let given ← scan.settle
  if flag = .help then .error .help
  else do
    let given ← accept given { flag }
    .ok { given }

def addFlag (scan : Scan) (flag : Flag) (value : Option String) : Except Usage Scan :=
  if flag.takesValue then scan.addOption flag value
  else if value.isSome then .error .needlessValue
  else scan.addSwitch flag

/-- A word that is no flag is the value of the option before it. -/
def addPlain (scan : Scan) (word : String) : Except Usage Scan :=
  match scan.pending with
  | some { flag, value := none } => .ok { scan with pending := some { flag, value := some word } }
  | _ => .error .unknownArgument

/-- Takes the words one by one.  After `--` there may be no further word. -/
def words (flags : List Flag) (scan : Scan) : List String → Except Usage (List Given)
  | [] => scan.settle
  | word :: rest =>
      match WordForm.of word with
      | .separator => if rest.isEmpty then scan.settle else .error .unknownArgument
      | .long name value =>
          match flags.find? (·.longName == name) with
          | none => .error .unknownArgument
          | some flag => do
              let scan ← scan.addFlag flag value
              words flags scan rest
      | .cluster letter attached =>
          match flags.find? (·.letter? == some letter) with
          | none => .error .unknownArgument
          | some flag => do
              let scan ←
                if flag.takesValue then scan.addOption flag (attachedValue attached)
                else scan.addSwitch flag
              words flags scan rest
      | .plain => do
          let scan ← scan.addPlain word
          words flags scan rest

end Scan

end PortableC
