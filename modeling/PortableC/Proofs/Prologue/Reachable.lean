import PortableC.Proofs.Checks
import PortableC.Proofs.ClaimedName
import PortableC.Proofs.FunctionRef.Registration
import PortableC.Proofs.Layout.Tokens
import PortableC.Target

namespace PortableC

/-! The prologues that come about: those of targets, and what they become while
signatures are registered. -/

open Source (Token)
open Text (isWord Line Palette)

theorem Compiler.exists_toolchain (toolchain : Toolchain) :
    ∃ compiler : Compiler, compiler.toolchain = .ok toolchain := by
  cases toolchain with
  | msvc => exact ⟨.msvc, rfl⟩
  | gnu => exact ⟨.gnu leastGnuMajor, by decide⟩

theorem Backend.make_eq_ok_iff {toolchain : Toolchain} {allocator : Option String}
    {backend : Backend} :
    Backend.make toolchain allocator = .ok backend ↔
      backend.toolchain = toolchain ∧ backend.allocator = allocator.getD defaultAllocator := by
  rw [Backend.make]
  constructor
  · intro made
    split at made
    · obtain rfl := Except.ok.inj made
      exact ⟨rfl, rfl⟩
    · cases made
  · obtain ⟨_, _, accepted⟩ := backend
    rintro ⟨rfl, rfl⟩
    exact dif_pos accepted

namespace Target

variable {target : Target} {prologue : Prologue}

/-- Every check has passed on a prologue that was made. -/
theorem prologue_eq_ok_iff : target.prologue = .ok prologue ↔
    ∃ toolchain, target.compiler.toolchain = .ok toolchain ∧
      Backend.make toolchain target.allocator = .ok prologue.backend ∧
      checkGuard prologue.backend target.guard = .ok () ∧
      prologue.functionRefs = target.functionRefs ∧ prologue.layout = target.layout := by
  simp only [Target.prologue, bind_eq_ok_iff]
  constructor
  · rintro ⟨toolchain, resolved, backend, made, ⟨⟩, checked, same⟩
    cases same
    exact ⟨toolchain, resolved, made, checked, rfl, rfl⟩
  · rintro ⟨toolchain, resolved, made, checked, refs, layout⟩
    refine ⟨toolchain, resolved, prologue.backend, made, (), checked, ?_⟩
    rw [← refs, ← layout]

theorem prologue_of_checked {backend : Backend}
    (resolved : target.compiler.toolchain = .ok backend.toolchain)
    (chosen : target.allocator = some backend.allocator)
    (checked : checkGuard backend target.guard = .ok ()) :
    target.prologue = .ok ⟨backend, target.functionRefs, target.layout⟩ := by
  refine prologue_eq_ok_iff.mpr ⟨backend.toolchain, resolved, ?_, checked, rfl, rfl⟩
  exact Backend.make_eq_ok_iff.mpr ⟨rfl, by rw [chosen]; rfl⟩

/-- A builtin of the toolchain makes no difference, since its name is not free. -/
theorem isGuardName_iff {backend : Backend} {name : String} :
    isGuardName backend name = true ↔
      isFreeName name = true ∧ "memset" ≠ name ∧ "calloc" ≠ name ∧ backend.allocator ≠ name := by
  rw [isGuardName, Bool.and_eq_true]
  refine and_congr_right fun free => ?_
  have generated : startsWith "__builtin_" "__builtin_memset" = true := by decide
  have notBuiltin : "__builtin_memset" ≠ name :=
    ((freeName_of_isFreeName free).ne_of_startsWith (by decide) generated).symm
  obtain ⟨toolchain, allocator, accepted⟩ := backend
  cases toolchain <;> simp [Primitive.all, Primitive.name, Backend.symbol, notBuiltin]

theorem isGuardName_of_checkGuard {backend : Backend} {guard : String}
    (checked : checkGuard backend (some guard) = .ok ()) : isGuardName backend guard = true := by
  simp only [checkGuard] at checked
  split at checked
  · assumption
  · cases checked

end Target

theorem Backend.isFreeName_allocator (backend : Backend) :
    isFreeName backend.allocator = true := by
  have accepted := backend.allocator_accepted
  rw [isAllocatorName, Bool.and_eq_true] at accepted
  exact accepted.1

theorem Backend.allocator_free (backend : Backend) : FreeName backend.allocator :=
  freeName_of_isFreeName backend.isFreeName_allocator

namespace Prologue

inductive Reachable : Prologue → Prop
  | made {target : Target} {prologue : Prologue} (accepted : target.prologue = .ok prologue) :
      Reachable prologue
  | registered {prologue : Prologue} (earlier : Reachable prologue) (signature : Signature) :
      Reachable (prologue.register signature).1

namespace Reachable

variable {prologue : Prologue}

theorem functionRefs_wellFormed (reachable : prologue.Reachable) :
    prologue.functionRefs.WellFormed := by
  induction reachable with
  | made accepted =>
      obtain ⟨_, _, _, _, refs, _⟩ := Target.prologue_eq_ok_iff.mp accepted
      rw [refs]
      exact (FunctionRefs.WellFormed.initial _).registerAll _
  | registered earlier signature induction => exact induction.register signature

theorem isGuardName_guard (reachable : prologue.Reachable) {guard : String}
    (guarded : prologue.layout.guard = some guard) :
    Target.isGuardName prologue.backend guard = true := by
  induction reachable with
  | @made target prologue accepted =>
      obtain ⟨_, _, _, checked, _, layout⟩ := Target.prologue_eq_ok_iff.mp accepted
      have chosen : target.guard = some guard := by rwa [layout] at guarded
      rw [chosen] at checked
      exact Target.isGuardName_of_checkGuard checked
  | registered earlier signature induction => exact induction guarded

/-- A guard is a free name that no primitive goes by. -/
theorem guard_accepted (reachable : prologue.Reachable) {guard : String}
    (guarded : prologue.layout.guard = some guard) :
    isFreeName guard = true ∧ "memset" ≠ guard ∧ "calloc" ≠ guard ∧
      prologue.backend.allocator ≠ guard :=
  Target.isGuardName_iff.mp (reachable.isGuardName_guard guarded)

end Reachable

end Prologue

end PortableC
