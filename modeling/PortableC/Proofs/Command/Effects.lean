import PortableC.Proofs.CheckUnit.Visible
import PortableC.Proofs.Command.Run
import PortableC.Proofs.FileTree.Write

namespace PortableC

/-! What a run does to the streams and to the files.

A run that fails says why on the standard error and leaves all files as they were.  One that
succeeds prints a text, or puts one without colours where it was told to.
-/

open Text (escape)

namespace Command

variable {command : Command} {read : FileReader} {files after : FileTree} {outcome : Outcome}
variable {error : Error} {path text message : String} {terminal : Bool}

def flags : Command → TargetFlags
  | emit flags _ _ | probe flags _ | symbols flags _ | types flags _ => flags

/-- The file that a command was told to write. -/
def destination? : Command → Option String
  | emit _ output _ | probe _ output => output
  | symbols _ _ | types _ _ => none

/-- The texts that go to files. -/
inductive Fills (read : FileReader) : Command → String → Prop
  | prologue {flags : TargetFlags} {output : Option String} {color : ColorChoice}
      {settings : Settings} {prologue : Prologue} (settled : flags.settings read = .ok settings)
      (built : (settings.withGuardFor output).prologue = .ok prologue) :
      Fills read (emit flags output color) prologue.text
  | checkUnit {flags : TargetFlags} {output : Option String} {prologue : Prologue} {unit : String}
      (built : flags.prologue read = .ok prologue) (checked : prologue.checkUnit = .ok unit) :
      Fills read (probe flags output) unit

/-- Why a command has no text: its settings cannot be had, what it shows cannot be built from
them, or a check cannot be written. -/
inductive Stops (read : FileReader) : Command → Error → Prop
  | settings {command : Command} {error : Error}
      (unsettled : command.flags.settings read = .error error) : Stops read command error
  | emit {flags : TargetFlags} {output : Option String} {color : ColorChoice} {settings : Settings}
      {error : Error} (settled : flags.settings read = .ok settings)
      (unbuilt : (settings.withGuardFor output).prologue = .error error) :
      Stops read (emit flags output color) error
  | probe {flags : TargetFlags} {output : Option String} {settings : Settings} {error : Error}
      (settled : flags.settings read = .ok settings)
      (unbuilt : settings.prologue = .error error) : Stops read (probe flags output) error
  | checkUnit {flags : TargetFlags} {output : Option String} {prologue : Prologue} {error : Error}
      (built : flags.prologue read = .ok prologue)
      (unchecked : prologue.checkUnit = .error error) : Stops read (probe flags output) error
  | symbols {flags : TargetFlags} {json : Bool} {settings : Settings} {error : Error}
      (settled : flags.settings read = .ok settings)
      (unbuilt : settings.prologue = .error error) : Stops read (symbols flags json) error
  | types {flags : TargetFlags} {json : Bool} {settings : Settings} {error : Error}
      (settled : flags.settings read = .ok settings)
      (unresolved : settings.shownToolchains = .error error) : Stops read (types flags json) error

/-- A run fails when there is no text, or when its file cannot be written. -/
inductive Fails (files : FileTree) (command : Command) : String → Prop
  | stopped {error : Error} (stops : command.Stops files.readText error) :
      Fails files command error.message
  | unwritten {path text : String} {fault : FileFault} (named : command.destination? = some path)
      (fills : command.Fills files.readText text)
      (refused : files.writeText path text = .error fault) :
      Fails files command ("cannot write " ++ path ++ ": " ++ fault.message)

/-- How a run ends. -/
inductive Ends (files : FileTree) (command : Command) : Outcome → FileTree → Prop
  | failed {message : String} (fails : command.Fails files message) :
      Ends files command
        { exitCode := 1, stdout := "", stderr := "error: " ++ message ++ "\n" } files
  | printed {text : String} (unnamed : command.destination? = none)
      (made : command.output false files.readText = .ok { text }) :
      Ends files command { exitCode := 0, stdout := text, stderr := "" } files
  | written {path text : String} {location : Location} {after : FileTree}
      (named : command.destination? = some path) (fills : command.Fills files.readText text)
      (visible : escape ∉ text.toList)
      (found : files.follow (.start path) (Path.steps path) = .ok location)
      (filled : after.node? location = some (.file (.text text)))
      (kept : ∀ other, other ≠ location → after.node? other = files.node? other)
      (readBack : after.readText path = .ok text) :
      Ends files command { exitCode := 0, stdout := "", stderr := "" } after

theorem stops_of_output (stopped : command.output terminal read = .error error) :
    command.Stops read error := by
  cases command with
  | emit flags output color =>
      obtain unsettled | ⟨settings, settled, others⟩ := bind_eq_error_iff.mp stopped
      · exact .settings unsettled
      · obtain unbuilt | ⟨_, _, made⟩ := bind_eq_error_iff.mp others
        · exact .emit settled unbuilt
        · cases made
  | probe flags output =>
      obtain unmade | ⟨prologue, built, others⟩ := bind_eq_error_iff.mp stopped
      · obtain unsettled | ⟨settings, settled, unbuilt⟩ := bind_eq_error_iff.mp unmade
        · exact .settings unsettled
        · exact .probe settled unbuilt
      · obtain unchecked | ⟨_, _, made⟩ := bind_eq_error_iff.mp others
        · exact .checkUnit built unchecked
        · cases made
  | symbols flags json =>
      obtain unmade | ⟨_, _, made⟩ := bind_eq_error_iff.mp stopped
      · obtain unsettled | ⟨settings, settled, unbuilt⟩ := bind_eq_error_iff.mp unmade
        · exact .settings unsettled
        · exact .symbols settled unbuilt
      · cases made
  | types flags json =>
      obtain unsettled | ⟨settings, settled, others⟩ := bind_eq_error_iff.mp stopped
      · exact .settings unsettled
      · obtain unresolved | ⟨_, _, made⟩ := bind_eq_error_iff.mp others
        · exact .types settled unresolved
        · cases made

theorem output_of_stops (stops : command.Stops read error) :
    command.output terminal read = .error error := by
  cases stops with
  | settings unsettled =>
      cases command with
      | emit flags output color | types flags json =>
          exact bind_eq_error_iff.mpr (.inl unsettled)
      | probe flags output | symbols flags json =>
          exact bind_eq_error_iff.mpr (.inl (bind_eq_error_iff.mpr (.inl unsettled)))
  | emit settled unbuilt =>
      exact bind_eq_error_iff.mpr (.inr ⟨_, settled, bind_eq_error_iff.mpr (.inl unbuilt)⟩)
  | probe settled unbuilt | symbols settled unbuilt =>
      exact bind_eq_error_iff.mpr (.inl (bind_eq_error_iff.mpr (.inr ⟨_, settled, unbuilt⟩)))
  | checkUnit built unchecked =>
      exact bind_eq_error_iff.mpr (.inr ⟨_, built, bind_eq_error_iff.mpr (.inl unchecked)⟩)
  | types settled unresolved =>
      exact bind_eq_error_iff.mpr (.inr ⟨_, settled, bind_eq_error_iff.mpr (.inl unresolved)⟩)

theorem output_destination {made : Output}
    (produced : command.output terminal read = .ok made) :
    made.destination = command.destination? := by
  cases command with
  | emit flags output color =>
      obtain ⟨_, _, others⟩ := bind_eq_ok_iff.mp produced
      obtain ⟨_, _, ⟨⟩⟩ := bind_eq_ok_iff.mp others
      rfl
  | probe flags output =>
      obtain ⟨_, _, others⟩ := bind_eq_ok_iff.mp produced
      obtain ⟨_, _, ⟨⟩⟩ := bind_eq_ok_iff.mp others
      rfl
  | symbols flags json =>
      obtain ⟨_, _, ⟨⟩⟩ := bind_eq_ok_iff.mp produced
      rfl
  | types flags json =>
      obtain ⟨_, _, others⟩ := bind_eq_ok_iff.mp produced
      obtain ⟨_, _, ⟨⟩⟩ := bind_eq_ok_iff.mp others
      rfl

/-- The text of a command that was told to write a file is the one for the file. -/
theorem fills_of_output {made : Output} (named : command.destination? = some path)
    (produced : command.output terminal read = .ok made) : command.Fills read made.text := by
  cases command with
  | emit flags output color =>
      obtain rfl : output = some path := named
      obtain ⟨settings, settled, others⟩ := bind_eq_ok_iff.mp produced
      obtain ⟨prologue, built, ⟨⟩⟩ := bind_eq_ok_iff.mp others
      exact .prologue settled built
  | probe flags output =>
      obtain ⟨prologue, built, others⟩ := bind_eq_ok_iff.mp produced
      obtain ⟨unit, checked, ⟨⟩⟩ := bind_eq_ok_iff.mp others
      exact .checkUnit built checked
  | symbols flags json | types flags json => cases named

theorem output_of_fills (named : command.destination? = some path)
    (fills : command.Fills read text) :
    command.output terminal read = .ok { destination := some path, text } := by
  cases fills with
  | prologue settled built =>
      obtain rfl := named
      exact bind_eq_ok_iff.mpr ⟨_, settled, bind_eq_ok_iff.mpr ⟨_, built, rfl⟩⟩
  | checkUnit built checked =>
      obtain rfl := named
      exact bind_eq_ok_iff.mpr ⟨_, built, bind_eq_ok_iff.mpr ⟨_, checked, rfl⟩⟩

/-- Whatever goes to a file comes from a reachable prologue, so it has no escape character. -/
theorem Fills.visible (fills : command.Fills read text) : escape ∉ text.toList := by
  cases fills with
  | prologue settled built => exact (Settings.reachable_prologue built).visible_text
  | checkUnit built checked => exact (TargetFlags.reachable_prologue built).visible_checkUnit checked

theorem run_of_fails (fails : command.Fails files message) :
    command.run files = (.failed message, files) := by
  cases fails with
  | stopped stops => exact run_of_error (output_of_stops stops)
  | unwritten named fills refused =>
      exact run_of_unwritten (output_of_fills named fills) refused

theorem run_ends (command : Command) (files : FileTree) :
    command.Ends files (command.run files).1 (command.run files).2 := by
  cases produced : command.output false files.readText with
  | error error =>
      rw [run_of_error produced]
      exact .failed (.stopped (stops_of_output produced))
  | ok made =>
      have destination := output_destination produced
      obtain ⟨output, text⟩ := made
      cases named : command.destination? with
      | none =>
          obtain rfl : output = none := destination.trans named
          rw [run_of_printed produced]
          exact .printed named produced
      | some path =>
          have fills := fills_of_output named produced
          obtain rfl : output = some path := destination.trans named
          cases written : files.writeText path text with
          | error fault =>
              rw [run_of_unwritten produced written]
              exact .failed (.unwritten named fills written)
          | ok after =>
              obtain ⟨location, found, filled, kept⟩ := FileTree.writeText_at written
              rw [run_of_written produced written]
              exact .written named fills fills.visible found filled kept
                (FileTree.readText_writeText written)

theorem Ends.unchanged (ends : command.Ends files outcome after)
    (unnamed : command.destination? = none) : after = files := by
  cases ends with
  | failed fails => rfl
  | printed _ made => rfl
  | written named =>
      rw [unnamed] at named
      cases named

example : runProgram ["emit", "-c", "missing.toml", "-o", "out.h"] {} =
    .ok (.failed "failed to read missing.toml: No such file or directory (os error 2)", {}) :=
  rfl

end Command

end PortableC
