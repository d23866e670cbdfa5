import PortableC.Proofs.Prologue.Reachable
import PortableC.Settings

namespace PortableC

/-! What settings come to once their texts are read: a target, and the prologue of it. -/

namespace Settings

variable {settings : Settings} {target : Target} {prologue : Prologue}

/-- The target that settings describe, once their texts are read. -/
def described (settings : Settings) (compiler : Compiler) (dialect : Dialect)
    (signatures : List Signature) : Target :=
  { compiler, dialect, signatures
    allocator := settings.allocator
    handle := settings.handle.getD true
    guard := settings.guard
    banner := settings.banner.getD true }

theorem target_eq_ok_iff : settings.target = .ok target ↔
    ∃ compiler dialect signatures, settings.compiler = .ok compiler ∧
      settings.dialectOrDefault = .ok dialect ∧
      settings.signatures.mapM Signature.parse = .ok signatures ∧
      settings.described compiler dialect signatures = target := by
  simp only [Settings.target, bind_eq_ok_iff, Except.ok.injEq, exists_and_left, described]

theorem target_made (made : settings.target = .ok target) :
    settings.signatures.mapM Signature.parse = .ok target.signatures ∧
      target.handle = settings.handle.getD true := by
  obtain ⟨_, _, _, _, _, read, rfl⟩ := target_eq_ok_iff.mp made
  exact ⟨read, rfl⟩

/-- The references of settings are those of the target that they describe. -/
theorem prologue_made (made : settings.prologue = .ok prologue) :
    ∃ target, settings.target = .ok target ∧ prologue.functionRefs = target.functionRefs := by
  obtain ⟨target, described, accepted⟩ := bind_eq_ok_iff.mp made
  obtain ⟨_, _, _, _, refs, _⟩ := Target.prologue_eq_ok_iff.mp accepted
  exact ⟨target, described, refs⟩

theorem reachable_prologue (made : settings.prologue = .ok prologue) : prologue.Reachable := by
  obtain ⟨_, _, accepted⟩ := bind_eq_ok_iff.mp made
  exact .made accepted

end Settings

end PortableC
