import PortableC.Proofs.CheckUnit.Tokens
import PortableC.Proofs.Command.Run
import PortableC.Proofs.CommandLine.TargetFlags

namespace PortableC

/-! The commands agree on a target.

Each command for a target settles the same settings and makes the same prologue from them, as
long as no file to write suggests a guard.  What else a check unit needs is always there: its
calls fit their primitives, and the handle has its name.
-/

theorem CheckUnit.header_cases (backend : Backend) :
    header backend = "" ∨ header backend = "#include <string.h>\n\n" := by
  obtain ⟨toolchain, allocator, accepted⟩ := backend
  cases toolchain with
  | msvc => exact .inr rfl
  | gnu => exact .inl rfl

/-- A check unit is a header, the prologue, a blank line, and the checks. -/
theorem Prologue.Reachable.checkUnit_eq {prologue : Prologue} (reachable : prologue.Reachable) :
    ∃ checks, CheckUnit.checks prologue = .ok checks ∧
      prologue.checkUnit =
        .ok (CheckUnit.header prologue.backend ++ prologue.text ++ "\n" ++ checks) := by
  have checked := CheckUnit.checks_eq reachable.functionRefs_wellFormed
  refine ⟨_, checked, ?_⟩
  rw [checkUnit, checked]
  rfl

namespace Command

theorem output_emit (flags : TargetFlags) (color : ColorChoice) (terminal : Bool)
    (read : FileReader) :
    (emit flags none color).output terminal read =
      (flags.prologue read).map fun prologue =>
        { text := prologue.coloredText (color.allows terminal) } := by
  rw [output, emitOutput, TargetFlags.prologue]
  cases flags.settings read with
  | error error => rfl
  | ok settings =>
      simp only [bind, Except.bind, Settings.withGuardFor_none]
      rfl

/-- What the commands do with a target when nothing goes to a file. -/
inductive Agreement (flags : TargetFlags) (files : FileTree) : Prop
  | failed (error : Error) (unmade : flags.prologue files.readText = .error error)
      (emitFails : ∀ color, (emit flags none color).run files = (.failed error.message, files))
      (probeFails : (probe flags none).run files = (.failed error.message, files))
      (symbolsFails : ∀ json, (symbols flags json).run files = (.failed error.message, files))
  | printed {prologue : Prologue} {plain header checks : String}
      (made : flags.prologue files.readText = .ok prologue)
      (emitPrints : ∀ color, ∃ text, (emit flags none color).run files = (.printed text, files))
      (uncolored : (emit flags none .never).run files = (.printed plain, files))
      (probePrints : (probe flags none).run files =
        (.printed (header ++ plain ++ "\n" ++ checks), files))
      (includes : header = "" ∨ header = "#include <string.h>\n\n")
      (checking : CheckUnit.checks prologue = .ok checks)
      (symbolsPrints : ∀ json, ∃ table, (symbols flags json).run files = (.printed table, files))

theorem agreement (flags : TargetFlags) (files : FileTree) : Agreement flags files := by
  cases made : flags.prologue files.readText with
  | error error =>
      have emits (color : ColorChoice) :
          (emit flags none color).output false files.readText = .error error := by
        rw [output_emit, made, Except.map]
      have probes : (probe flags none).output false files.readText = .error error :=
        bind_eq_error_iff.mpr (.inl made)
      have tabulates (json : Bool) :
          (symbols flags json).output false files.readText = .error error :=
        bind_eq_error_iff.mpr (.inl made)
      exact .failed error made (fun color => run_of_error (emits color)) (run_of_error probes)
        (fun json => run_of_error (tabulates json))
  | ok prologue =>
      obtain ⟨checks, checking, checkUnit⟩ := (TargetFlags.reachable_prologue made).checkUnit_eq
      have emits (color : ColorChoice) : (emit flags none color).output false files.readText =
          .ok { text := prologue.coloredText (color.allows false) } := by
        rw [output_emit, made, Except.map]
      have probes : (probe flags none).output false files.readText =
          .ok { text := CheckUnit.header prologue.backend ++ prologue.text ++ "\n" ++ checks } :=
        bind_eq_ok_iff.mpr ⟨prologue, made, bind_eq_ok_iff.mpr ⟨_, checkUnit, rfl⟩⟩
      have tabulates (json : Bool) : (symbols flags json).output false files.readText =
          .ok { text := if json then prologue.backend.toJson.pretty ++ "\n"
            else prologue.backend.report } :=
        bind_eq_ok_iff.mpr ⟨prologue, made, rfl⟩
      exact .printed made (fun color => ⟨_, run_of_printed (emits color)⟩)
        (run_of_printed (emits .never)) (run_of_printed probes)
        (CheckUnit.header_cases prologue.backend) checking
        (fun json => ⟨_, run_of_printed (tabulates json)⟩)

end Command

end PortableC
