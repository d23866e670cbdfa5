import PortableC.Proofs.Command.Agreement
import PortableC.Proofs.Settings.Acceptance
import PortableC.Proofs.Settings.Layers

namespace PortableC

/-! What the prologue of a command is made of.

The flags lie on top of a settings file.  A flag with a value has its way, and the file where the
flag is not given.  A switch turns its part off, and leaves it to the file otherwise.  Signatures
of the file come first.  Where a prologue goes to a header, a guard may also follow from the name
of the header, which is asked last of all.
-/

variable {flags : TargetFlags} {read : FileReader} {settings file : Settings} {prologue : Prologue}
  {given : List Given} {name : CommandName} {command : Command} {guardFile : Option String}

namespace TargetFlags

/-- The settings in the file, if there is one. -/
def fileSettings (flags : TargetFlags) (read : FileReader) : Except Error Settings :=
  match flags.config with
  | some path => Settings.load read path
  | none => .ok {}

theorem settings_eq_ok_iff : flags.settings read = .ok settings ↔
    ∃ file, flags.fileSettings read = .ok file ∧ file.overlay flags.overrides = settings := by
  rw [TargetFlags.settings, fileSettings]
  cases flags.config <;> simp only [bind_eq_ok_iff, Except.ok.injEq]

end TargetFlags

namespace Command

open Given (has targetFlags value? values)

/-- The prologue that a command makes.  The table of types needs none. -/
def prologue? (read : FileReader) : Command → Option (Except Error Prologue)
  | emit flags output _ => some do
      let settings ← flags.settings read
      (settings.withGuardFor output).prologue
  | probe flags _ | symbols flags _ => some (flags.prologue read)
  | types _ _ => none

/-- What a command makes of its prologue. -/
inductive Shows (terminal : Bool) (prologue : Prologue) : Command → Output → Prop
  | emit (flags : TargetFlags) (output : Option String) (color : ColorChoice) :
      Shows terminal prologue (emit flags output color)
        { destination := output
          text := prologue.coloredText (usesColor terminal output color) }
  | probe (flags : TargetFlags) (output : Option String) {text : String}
      (checking : prologue.checkUnit = .ok text) :
      Shows terminal prologue (probe flags output) { destination := output, text }
  | symbols (flags : TargetFlags) (json : Bool) :
      Shows terminal prologue (symbols flags json)
        { text :=
          if json then prologue.backend.toJson.pretty ++ "\n" else prologue.backend.report }

/-- The file whose name may suggest a guard. -/
def guardFile? (given : List Given) : CommandName → Option String
  | .emit => value? .output given
  | _ => none

/-- A prologue with what flags ask for, and with what a settings file does where they are silent.
What neither decides has its default, and the guard is the one that a file name suggests. -/
structure Effective (given : List Given) (file : Settings) (guardFile : Option String)
    (prologue : Prologue) : Prop where
  toolchain : ∃ named compiler, (value? .toolchain given).or file.toolchain = some named ∧
    Compiler.parse named = .ok compiler ∧ compiler.toolchain = .ok prologue.toolchain
  dialect : Settings.readOr Dialect.parse .cxx ((value? .dialect given).or file.dialect) =
    .ok prologue.dialect
  allocator : prologue.backend.allocator =
    ((value? .allocator given).or file.allocator).getD "calloc"
  guard : prologue.layout.guard =
    ((value? .guard given).or file.guard).or (guardFile.bind HeaderGuard.ofPath)
  handle : prologue.functionRefs.handle? = none ↔
    has .noHandle given = true ∨ file.handle = some false
  banner : prologue.layout.banner = false ↔ has .noBanner given = true ∨ file.banner = some false
  signatures : ∃ early late, file.signatures.mapM Signature.parse = .ok early ∧
    (values .signature given).mapM Signature.parse = .ok late ∧
    prologue.functionRefs.typedSignatures = (early ++ late).eraseDups

/-- A switch only ever turns something off. -/
theorem switchedOff_or_eq_false_iff (flag : Flag) (given : List Given) (below : Option Bool) :
    ((Given.switchedOff flag given).or below).getD true = false ↔
      has flag given = true ∨ below = some false := by
  rw [Given.switchedOff]
  cases has flag given with
  | true => simp
  | false => cases below <;> simp

theorem effective_of_prologue
    (made : ((file.overlay (targetFlags given).overrides).withGuardFor guardFile).prologue =
      .ok prologue) : Effective given file guardFile prologue := by
  obtain ⟨target, described, accepted⟩ := bind_eq_ok_iff.mp made
  obtain ⟨compiler, dialect, signatures, named, spoken, parsed, same⟩ :=
    Settings.target_eq_ok_iff.mp described
  obtain ⟨toolchain, resolved, backend, _, references, layout⟩ :=
    Target.prologue_eq_ok_iff.mp accepted
  obtain ⟨isToolchain, allocator⟩ := Backend.make_eq_ok_iff.mp backend
  subst same
  constructor
  case toolchain =>
    rw [Settings.compiler_eq_readOr, Settings.readOr_eq_ok_iff] at named
    rcases named with ⟨_, rfl⟩ | ⟨name, chosen, read⟩
    · cases resolved
    · refine ⟨name, compiler, chosen, read, ?_⟩
      rw [Prologue.toolchain, isToolchain]
      exact resolved
  case dialect =>
    rw [Settings.dialectOrDefault_eq_readOr] at spoken
    rw [Prologue.dialect, layout]
    exact spoken
  case allocator => exact allocator
  case guard =>
    rw [layout]
    rfl
  case handle =>
    rw [references, Target.handle?_functionRefs]
    exact switchedOff_or_eq_false_iff .noHandle given file.handle
  case banner =>
    rw [layout]
    exact switchedOff_or_eq_false_iff .noBanner given file.banner
  case signatures =>
    obtain ⟨early, late, readEarly, readLate, both⟩ := Settings.signatures_overlay parsed
    refine ⟨early, late, readEarly, readLate, ?_⟩
    rw [references, Target.typedSignatures_functionRefs, ← both]
    rfl

/-- Any command for a target makes its prologue of the file with the flags on top.  Only `emit`
has the name of its output suggest a guard. -/
theorem prologue?_eq_ok_iff (targeted : name ≠ .types) :
    (ofGiven given name).prologue? read = some (.ok prologue) ↔
      ∃ file, (targetFlags given).fileSettings read = .ok file ∧
        ((file.overlay (targetFlags given).overrides).withGuardFor
          (guardFile? given name)).prologue = .ok prologue := by
  have settled : (targetFlags given).prologue read = .ok prologue ↔
      ∃ file, (targetFlags given).fileSettings read = .ok file ∧
        (file.overlay (targetFlags given).overrides).prologue = .ok prologue := by
    simp only [TargetFlags.prologue, bind_eq_ok_iff, TargetFlags.settings_eq_ok_iff,
      exists_exists_and_eq_and]
  cases name with
  | emit =>
      simp only [ofGiven, prologue?, Option.some.injEq, bind_eq_ok_iff,
        TargetFlags.settings_eq_ok_iff, exists_exists_and_eq_and, guardFile?]
  | probe => simpa only [ofGiven, prologue?, Option.some.injEq, guardFile?,
      Settings.withGuardFor_none] using settled
  | symbols => simpa only [ofGiven, prologue?, Option.some.injEq, guardFile?,
      Settings.withGuardFor_none] using settled
  | types => exact absurd rfl targeted

theorem exists_shown (terminal : Bool) (made : command.prologue? read = some (.ok prologue)) :
    ∃ shown, command.output terminal read = .ok shown ∧ Shows terminal prologue command shown := by
  cases command with
  | emit flags output color =>
      obtain ⟨settings, settled, built⟩ := bind_eq_ok_iff.mp (Option.some.inj made)
      exact ⟨_, bind_eq_ok_iff.mpr ⟨settings, settled, bind_eq_ok_iff.mpr ⟨prologue, built, rfl⟩⟩,
        .emit flags output color⟩
  | probe flags output =>
      have built : flags.prologue read = .ok prologue := Option.some.inj made
      obtain ⟨_, _, checking⟩ := (TargetFlags.reachable_prologue built).checkUnit_eq
      exact ⟨_, bind_eq_ok_iff.mpr ⟨prologue, built, bind_eq_ok_iff.mpr ⟨_, checking, rfl⟩⟩,
        .probe flags output checking⟩
  | symbols flags json =>
      have built : flags.prologue read = .ok prologue := Option.some.inj made
      exact ⟨_, bind_eq_ok_iff.mpr ⟨prologue, built, rfl⟩, .symbols flags json⟩
  | types => cases made

/-- When a command makes a prologue, that prologue is what it shows, and has what the flags ask
for, or the settings file where they are silent. -/
theorem prologue_follows_flags_and_file (built :
    (ofGiven given name).prologue? read = some (.ok prologue)) :
    (∃ file, (targetFlags given).fileSettings read = .ok file ∧
      Effective given file (guardFile? given name) prologue) ∧
    ∀ terminal, ∃ shown, (ofGiven given name).output terminal read = .ok shown ∧
      Shows terminal prologue (ofGiven given name) shown := by
  have targeted : name ≠ .types := by
    intro isTypes
    subst isTypes
    cases built
  obtain ⟨file, loaded, made⟩ := (prologue?_eq_ok_iff targeted).mp built
  exact ⟨⟨file, loaded, effective_of_prologue made⟩, fun terminal => exists_shown terminal built⟩

/-- A file that turns the banner off and names another toolchain, a switch for the handle, and a
header with no guard named for it.  A signature of the file comes again among the flags. -/
theorem prologue_follows_flags_and_file_header :
    let text := "toolchain = 'msvc'\nallocator = 'GC_malloc'\nbanner = false\n" ++
      "fn-refs = ['i32(i32)']\n"
    let read : FileReader := fun _ => .ok text
    let given : List Given :=
      [⟨.signature, some "void()"⟩, ⟨.config, some "target.toml"⟩, ⟨.noHandle, none⟩,
        ⟨.toolchain, some "gcc-9"⟩, ⟨.output, some "out/prelude.h"⟩,
        ⟨.signature, some " i32 ( i32 ) "⟩]
    let call : Signature := { ret := .int .i32, params := [.int .i32] }
    ∃ prologue : Prologue, (ofGiven given .emit).output true read =
        .ok { destination := some "out/prelude.h", text := prologue.text } ∧
      prologue.toolchain = .gnu ∧ prologue.dialect = .cxx ∧
      prologue.backend.allocator = "GC_malloc" ∧ prologue.layout.guard = some "PRELUDE_H" ∧
      prologue.functionRefs.handle? = none ∧ prologue.layout.banner = false ∧
      prologue.functionRefs.typedSignatures = [call, { ret := .void }] := by
  intro text read given call
  let file : Settings :=
    { toolchain := some "msvc", allocator := some "GC_malloc", banner := some false
      signatures := ["i32(i32)"] }
  let backend : Backend := ⟨.gnu, "GC_malloc", by decide⟩
  let target : Target :=
    { compiler := .gnu 9, allocator := some "GC_malloc", signatures := [call, { ret := .void }, call]
      handle := false, guard := some "PRELUDE_H", banner := false }
  have loaded : (targetFlags given).fileSettings read = .ok file := by
    unfold given read text file
    rfl
  have named : Compiler.parse "gcc-9" = .ok (.gnu 9) := by decide +kernel
  have suggested : HeaderGuard.ofPath "out/prelude.h" = some "PRELUDE_H" := by decide
  have described : ((file.overlay (targetFlags given).overrides).withGuardFor
      (some "out/prelude.h")).target = .ok target := by
    refine Settings.target_eq_ok_iff.mpr ⟨_, _, target.signatures, named, rfl, by decide, ?_⟩
    simp only [Settings.described, Settings.withGuardFor, Option.bind_some, suggested]
    rfl
  have accepted : target.prologue = .ok ⟨backend, target.functionRefs, target.layout⟩ :=
    Target.prologue_of_checked (by decide) rfl (by decide)
  have built := (prologue?_eq_ok_iff (by decide : CommandName.emit ≠ .types)).mpr
    ⟨file, loaded, bind_eq_ok_iff.mpr ⟨target, described, accepted⟩⟩
  obtain ⟨⟨fileToo, loadedToo, effective⟩, shows⟩ := prologue_follows_flags_and_file built
  obtain rfl : file = fileToo := Except.ok.inj (loaded.symm.trans loadedToo)
  obtain ⟨shown, output, isShown⟩ := shows true
  cases isShown
  obtain ⟨early, late, readEarly, readLate, signatures⟩ := effective.signatures
  obtain rfl : [call] = early := Except.ok.inj (Eq.trans (by decide) readEarly)
  obtain rfl : [{ ret := .void }, call] = late := Except.ok.inj (Eq.trans (by decide) readLate)
  refine ⟨_, output, rfl, rfl, effective.allocator, ?_, effective.handle.mpr (.inl rfl),
    effective.banner.mpr (.inr rfl), signatures.trans (by decide)⟩
  exact effective.guard.trans suggested

end Command

end PortableC
