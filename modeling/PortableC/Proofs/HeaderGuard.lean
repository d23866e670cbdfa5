import PortableC.Command
import PortableC.Proofs.Prologue.Vocabulary
import PortableC.Proofs.Settings.Resolution
import PortableC.Proofs.Text.MacroName

namespace PortableC

/-! Guards that follow from the name of a header.

Such a guard has a letter, since the extension has one, but no small letter.  Every name that
is refused for guards has a small letter, and so has every word of a prologue that the user did
not choose.
-/

open FunctionRef (nameOf)
open Text (HasSmallLetter macroExpression)

/-! Names with a small letter. -/

theorem Text.keywords_small : ∀ word ∈ keywords, HasSmallLetter word.toList := by
  decide +kernel

theorem fixedNames_small : ∀ name ∈ fixedNames, HasSmallLetter name.toList := by
  decide

theorem Toolchain.unreservedWords_small (toolchain : Toolchain) :
    ∀ word ∈ toolchain.unreservedWords, HasSmallLetter word.toList := by
  cases toolchain <;> decide

theorem Backend.fillMemory_small (backend : Backend) :
    HasSmallLetter (backend.symbol .fillMemory).name.toList := by
  obtain ⟨toolchain, _, _⟩ := backend
  cases toolchain <;> (simp only [symbol]; decide)

section
variable {name : String}

theorem hasSmallLetter_of_startsWith {beginning : String}
    (listed : beginning ∈ claimedBeginnings) (starts : startsWith beginning name = true) :
    HasSmallLetter name.toList := by
  have small : ∀ beginning ∈ claimedBeginnings, HasSmallLetter beginning.toList := by decide
  exact (small beginning listed).of_beginning (List.isPrefixOf_iff_prefix.mp starts)

theorem FunctionRef.nameOf_small (purpose : Option Signature) :
    HasSmallLetter (nameOf purpose).toList := by
  rcases nameOf_generated purpose with same | starts
  · rw [same]
    decide
  · exact hasSmallLetter_of_startsWith (by decide) starts

theorem hasSmallLetter_of_isClaimedName (claimed : isClaimedName name = true) :
    HasSmallLetter name.toList := by
  simp only [isClaimedName, Bool.or_eq_true, List.any_eq_true, beq_iff_eq] at claimed
  rcases claimed with ((⟨scalar, listed, rfl⟩ | ⟨type, listed, rfl⟩) | rfl) | ⟨_, listed, starts⟩
  · exact fixedNames_small _ (List.mem_append_right _ (List.mem_map_of_mem listed))
  · exact fixedNames_small _ (List.mem_append_left _ (List.mem_map_of_mem listed))
  · decide
  · exact hasSmallLetter_of_startsWith listed starts

end

theorem Prologue.Uses.hasSmallLetter_or_chosen {prologue : Prologue} {word : String}
    (uses : prologue.Uses word) :
    HasSmallLetter word.toList ∨ word = prologue.backend.allocator ∨
      prologue.layout.guard = some word := by
  cases uses with
  | keyword listed => exact .inl (Text.keywords_small word listed)
  | fixed listed => exact .inl (fixedNames_small word listed)
  | native listed => exact .inl (prologue.toolchain.unreservedWords_small word listed)
  | reference purpose named => exact .inl (named ▸ FunctionRef.nameOf_small purpose)
  | allocator same => exact .inr (.inl same)
  | guard guarded => exact .inr (.inr guarded)

/-! A guard that is put on afterwards. -/

namespace Prologue

def guardedBy (prologue : Prologue) (guard : String) : Prologue :=
  { prologue with layout := { prologue.layout with guard := some guard } }

end Prologue

/-- The guard is looked at last, and nothing but the layout depends on it. -/
theorem Target.prologue_with_guard {target : Target} {prologue : Prologue}
    (accepted : target.prologue = .ok prologue) (guard : String) :
    { target with guard := some guard : Target }.prologue =
      (checkGuard prologue.backend (some guard)).map fun _ => prologue.guardedBy guard := by
  obtain ⟨toolchain, resolved, made, _, refs, layout⟩ := prologue_eq_ok_iff.mp accepted
  obtain ⟨backend, _, _⟩ := prologue
  subst refs layout
  simp only [Target.prologue, resolved, made, bind, Except.bind]
  cases checkGuard backend (some guard) <;> rfl

theorem Settings.prologue_with_guard {settings : Settings} {prologue : Prologue}
    (accepted : settings.prologue = .ok prologue) (guard : String) :
    { settings with guard := some guard : Settings }.prologue =
      (Target.checkGuard prologue.backend (some guard)).map fun _ => prologue.guardedBy guard := by
  obtain ⟨target, described, made⟩ := bind_eq_ok_iff.mp accepted
  obtain ⟨compiler, dialect, signatures, toolchain, language, texts, rfl⟩ :=
    target_eq_ok_iff.mp described
  have redescribed : { settings with guard := some guard : Settings }.target =
      .ok { settings.described compiler dialect signatures with guard := some guard } :=
    target_eq_ok_iff.mpr ⟨compiler, dialect, signatures, toolchain, language, texts, rfl⟩
  rw [Settings.prologue, redescribed]
  exact Target.prologue_with_guard made guard

theorem Path.extension_suffix {name extension : List Char}
    (found : extension? name = some extension) : extension <:+ name := by
  simp only [extension?] at found
  split at found
  · obtain rfl := Option.some.inj found
    rw [← List.reverse_prefix, List.reverse_reverse]
    exact List.takeWhile_prefix _
  · cases found

namespace HeaderGuard

variable {path guard : String}

theorem ofPath_eq_some_iff : ofPath path = some guard ↔
    ∃ name, Path.fileName? path = some name ∧
      ∃ extension, Path.extension? name = some extension ∧ extension ∈ headerExtensions ∧
        Text.macroCase (String.ofList name) = guard := by
  simp only [ofPath, Option.bind_eq_bind, Option.bind_eq_some_iff, Option.ite_none_right_eq_some,
    List.contains_iff_mem, Option.some.injEq]

theorem macroExpression_ofPath (derived : ofPath path = some guard) :
    guard.toList ∈ macroExpression.matches' := by
  obtain ⟨name, _, extension, ends, listed, rfl⟩ := ofPath_eq_some_iff.mp derived
  have lettered : ∀ extension ∈ headerExtensions, 'h' ∈ extension := by decide
  have inName : 'h' ∈ (String.ofList name).toList := by
    rw [String.toList_ofList]
    exact (Path.extension_suffix ends).subset (lettered extension listed)
  exact Text.macroCase_macroExpression inName (by decide)

theorem not_hasSmallLetter_ofPath (derived : ofPath path = some guard) :
    ¬ HasSmallLetter guard.toList :=
  Text.not_hasSmallLetter_of_macroExpression (macroExpression_ofPath derived)

theorem ofPath_ne (derived : ofPath path = some guard) {name : String}
    (small : HasSmallLetter name.toList) : guard ≠ name :=
  fun same => not_hasSmallLetter_ofPath derived (same ▸ small)

theorem isIdentifier_ofPath (derived : ofPath path = some guard) :
    Text.isIdentifier guard = true := by
  rw [Text.isIdentifier, Bool.and_eq_true, Bool.not_eq_true', List.contains_eq_mem,
    decide_eq_false_iff_not]
  exact ⟨Text.isWord_of_macroExpression (macroExpression_ofPath derived), fun keyword =>
    not_hasSmallLetter_ofPath derived (Text.keywords_small guard keyword)⟩

theorem isClaimedName_ofPath (derived : ofPath path = some guard) :
    isClaimedName guard = false :=
  Bool.eq_false_iff.mpr fun claimed =>
    not_hasSmallLetter_ofPath derived (hasSmallLetter_of_isClaimedName claimed)

/-- Only the allocator can be in the way of a derived guard. -/
theorem isGuardName_ofPath (derived : ofPath path = some guard) (backend : Backend) :
    Target.isGuardName backend guard = true ↔ backend.allocator ≠ guard := by
  rw [Target.isGuardName_iff]
  refine ⟨fun accepted => accepted.2.2.2, fun other => ⟨?_, ?_, ?_, other⟩⟩
  · rw [isFreeName, isIdentifier_ofPath derived, isClaimedName_ofPath derived]
    rfl
  · exact (ofPath_ne derived (by decide)).symm
  · exact (ofPath_ne derived (by decide)).symm

theorem prologue_withGuardFor (derived : ofPath path = some guard) {settings : Settings}
    {prologue : Prologue} (unguarded : settings.guard = none)
    (accepted : settings.prologue = .ok prologue) :
    (settings.withGuardFor (some path)).prologue =
      if prologue.backend.allocator = guard then .error (.notAnIdentifier guard)
      else .ok (prologue.guardedBy guard) := by
  have given : settings.withGuardFor (some path) = { settings with guard := some guard } := by
    rw [Settings.withGuardFor, unguarded, Option.none_or, Option.bind_some, derived]
  have accepts := isGuardName_ofPath derived prologue.backend
  rw [given, Settings.prologue_with_guard accepted, Target.checkGuard]
  by_cases taken : prologue.backend.allocator = guard
  · rw [if_pos taken, if_neg fun accepted => accepts.mp accepted taken]
    rfl
  · rw [if_neg taken, if_pos (accepts.mpr taken)]
    rfl

theorem emitOutput_ofPath (derived : ofPath path = some guard) {flags : TargetFlags}
    {colored : Bool} {read : FileReader} {settings : Settings} {prologue : Prologue}
    (loaded : flags.settings read = .ok settings) (unguarded : settings.guard = none)
    (accepted : settings.prologue = .ok prologue) :
    Command.emitOutput flags (some path) colored read =
      if prologue.backend.allocator = guard then .error (.notAnIdentifier guard)
      else .ok
        { destination := some path, text := (prologue.guardedBy guard).coloredText colored } := by
  have built := prologue_withGuardFor derived unguarded accepted
  rw [Command.emitOutput, loaded]
  by_cases taken : prologue.backend.allocator = guard
  · rw [if_pos taken] at built ⊢
    simp only [built, bind, Except.bind]
  · rw [if_neg taken] at built ⊢
    simp only [built, bind, Except.bind]

theorem eq_allocator_of_mem (derived : ofPath path = some guard) {prologue : Prologue}
    (reachable : prologue.Reachable) (unguarded : prologue.layout.guard = none)
    (inText : .word guard ∈ Source.tokens prologue.text.toList) :
    guard = prologue.backend.allocator := by
  rcases (reachable.uses_of_mem inText).hasSmallLetter_or_chosen with small | same | guarded
  · exact absurd small (not_hasSmallLetter_ofPath derived)
  · exact same
  · rw [unguarded] at guarded
    cases guarded

/-- The guard that follows from the name of a header is written in capitals, digits and
underscores.  It is a name that nothing lays claim to, and in a prologue without a guard no word
is the same, unless the allocator is.  So whatever settings make a prologue without a guard make
one with this guard, unless the allocator has its name. -/
theorem derived_guard_usable (derived : ofPath path = some guard) :
    guard.toList ∈ macroExpression.matches' ∧
    Text.isIdentifier guard = true ∧ guard ∉ Text.keywords ∧ isClaimedName guard = false ∧
    guard ≠ "memset" ∧ guard ≠ "calloc" ∧
    (∀ backend : Backend, guard ≠ (backend.symbol .fillMemory).name) ∧
    (∀ prologue : Prologue, prologue.Reachable → prologue.layout.guard = none →
      .word guard ∈ Source.tokens prologue.text.toList → guard = prologue.backend.allocator) ∧
    (∀ (settings : Settings) (prologue : Prologue), settings.guard = none →
      settings.prologue = .ok prologue →
      (settings.withGuardFor (some path)).prologue =
        if prologue.backend.allocator = guard then .error (.notAnIdentifier guard)
        else .ok (prologue.guardedBy guard)) ∧
    ∀ (flags : TargetFlags) (colored : Bool) (read : FileReader) (settings : Settings)
      (prologue : Prologue), flags.settings read = .ok settings → settings.guard = none →
      settings.prologue = .ok prologue →
      Command.emitOutput flags (some path) colored read =
        if prologue.backend.allocator = guard then .error (.notAnIdentifier guard)
        else .ok
          { destination := some path, text := (prologue.guardedBy guard).coloredText colored } := by
  exact ⟨macroExpression_ofPath derived, isIdentifier_ofPath derived, fun keyword =>
    not_hasSmallLetter_ofPath derived (Text.keywords_small guard keyword),
    isClaimedName_ofPath derived, ofPath_ne derived (by decide), ofPath_ne derived (by decide),
    fun backend => ofPath_ne derived backend.fillMemory_small, fun _ => eq_allocator_of_mem derived,
    fun _ _ => prologue_withGuardFor derived, fun _ _ _ _ _ => emitOutput_ofPath derived⟩

theorem derived_guard_usable_digit :
    let path := "out/3rd-partyPrelude.h"
    let flags (allocator : String) : TargetFlags :=
      { overrides := { toolchain := some "gcc-9", allocator := some allocator } }
    let read : FileReader := fun _ => .error .notFound
    ofPath path = some "_3RD_PARTY_PRELUDE_H" ∧
    "_3RD_PARTY_PRELUDE_H".toList ∈ macroExpression.matches' ∧
    (∃ output, Command.emitOutput (flags "GC_malloc") (some path) false read = .ok output ∧
      output.destination = some path) ∧
    Command.emitOutput (flags "_3RD_PARTY_PRELUDE_H") (some path) false read =
      .error (.notAnIdentifier "_3RD_PARTY_PRELUDE_H") := by
  intro path flags read
  have derived : ofPath path = some "_3RD_PARTY_PRELUDE_H" := by decide
  have named : Compiler.parse "gcc-9" = .ok (.gnu 9) := by decide +kernel
  have resolved : (Compiler.gnu 9).toolchain = .ok .gnu := by decide
  have made (allocator : String) (accepted : isAllocatorName allocator = true) :
      ∃ settings prologue, (flags allocator).settings read = .ok settings ∧
        settings.guard = none ∧ settings.prologue = .ok prologue ∧
        prologue.backend.allocator = allocator := by
    let target : Target := { compiler := .gnu 9, allocator := some allocator }
    let prologue : Prologue := ⟨⟨.gnu, allocator, accepted⟩, target.functionRefs, target.layout⟩
    have described : ((flags allocator).overrides).target = .ok target :=
      Settings.target_eq_ok_iff.mpr ⟨_, _, _, named, rfl, rfl, rfl⟩
    have built : target.prologue = .ok prologue :=
      Target.prologue_of_checked resolved rfl rfl
    exact ⟨_, prologue, rfl, rfl, bind_eq_ok_iff.mpr ⟨target, described, built⟩, rfl⟩
  obtain ⟨shape, _, _, _, _, _, _, _, _, emits⟩ := derived_guard_usable derived
  obtain ⟨settings, prologue, loaded, unguarded, accepted, allocator⟩ :=
    made "GC_malloc" (by decide)
  obtain ⟨others, takenPrologue, loadedToo, unguardedToo, acceptedToo, taken⟩ :=
    made "_3RD_PARTY_PRELUDE_H" (by decide)
  refine ⟨derived, shape, ?_, ?_⟩
  · have free : prologue.backend.allocator ≠ "_3RD_PARTY_PRELUDE_H" := by
      rw [allocator]
      decide
    have emitted := emits _ false _ _ _ loaded unguarded accepted
    rw [if_neg free] at emitted
    exact ⟨_, emitted, rfl⟩
  · exact (emits _ false _ _ _ loadedToo unguardedToo acceptedToo).trans (if_pos taken)

end HeaderGuard

end PortableC
