import PortableC.Command
import PortableC.Proofs.Settings.Resolution

namespace PortableC

/-! What a run makes of what a command produces. -/

theorem TargetFlags.reachable_prologue {flags : TargetFlags} {read : FileReader}
    {prologue : Prologue} (made : flags.prologue read = .ok prologue) : prologue.Reachable := by
  obtain ⟨_, _, built⟩ := bind_eq_ok_iff.mp made
  exact Settings.reachable_prologue built

theorem Settings.withGuardFor_none (settings : Settings) : settings.withGuardFor none = settings := by
  rw [withGuardFor, Option.bind_none, Option.or_none]

namespace Command

variable {command : Command} {files : FileTree} {path text : String}

theorem run_of_error {error : Error}
    (stopped : command.output false files.readText = .error error) :
    command.run files = (.failed error.message, files) := by
  rw [run, stopped]

theorem run_of_printed (made : command.output false files.readText = .ok { text }) :
    command.run files = (.printed text, files) := by
  rw [run, made]

theorem run_of_written {after : FileTree}
    (made : command.output false files.readText = .ok { destination := some path, text })
    (written : files.writeText path text = .ok after) :
    command.run files = (.printed "", after) := by
  simp only [run, made, written]

theorem run_of_unwritten {fault : FileFault}
    (made : command.output false files.readText = .ok { destination := some path, text })
    (refused : files.writeText path text = .error fault) :
    command.run files = (.cannotWrite path fault, files) := by
  simp only [run, made, refused]

end Command

end PortableC
