import PortableC.Proofs.FunctionRef.Places
import PortableC.Proofs.Settings.Resolution

namespace PortableC

/-! What another layer of settings does to the function references of a target.  Settings on
top add signatures at the end, and a signature that was there before adds nothing. -/

open FunctionRef (oneLater typedFor)

namespace Settings

variable {lower upper : Settings}

theorem signatures_overlay {all : List Signature}
    (read : (lower.overlay upper).signatures.mapM Signature.parse = .ok all) :
    ∃ early late, lower.signatures.mapM Signature.parse = .ok early ∧
      upper.signatures.mapM Signature.parse = .ok late ∧ all = early ++ late := by
  rw [overlay, List.mapM_append] at read
  obtain ⟨early, readEarly, others⟩ := bind_eq_ok_iff.mp read
  obtain ⟨late, readLate, same⟩ := bind_eq_ok_iff.mp others
  exact ⟨early, late, readEarly, readLate, (Except.ok.inj same).symm⟩

/-- Settings on top keep the references of those below, with their ids as long as they leave
the handle as it is.  When they turn it off or on, all typed references move by one place.
The signatures that have references are those of both, without repetitions. -/
theorem overlay_keeps_references {below above : Prologue} (made : lower.prologue = .ok below)
    (layered : (lower.overlay upper).prologue = .ok above) :
    let handle := lower.handle.getD true
    let handleAbove := (lower.overlay upper).handle.getD true
    (handle = handleAbove → below.functionRefs.list <+: above.functionRefs.list) ∧
    (handle = true → handleAbove = false →
      ∃ kept, kept <+: above.functionRefs.typed ∧
        below.functionRefs.typed = kept.map oneLater) ∧
    (handle = false → handleAbove = true →
      below.functionRefs.typed.map oneLater <+: above.functionRefs.typed) ∧
    ∃ early late, lower.signatures.mapM Signature.parse = .ok early ∧
      upper.signatures.mapM Signature.parse = .ok late ∧
      above.functionRefs.typedSignatures = (early ++ late).eraseDups := by
  intro handle handleAbove
  obtain ⟨target, described, refs⟩ := prologue_made made
  obtain ⟨targetAbove, describedAbove, refsAbove⟩ := prologue_made layered
  obtain ⟨read, isHandle⟩ := target_made described
  obtain ⟨readAbove, isHandleAbove⟩ := target_made describedAbove
  obtain ⟨early, late, readEarly, readLate, both⟩ := signatures_overlay readAbove
  obtain rfl : target.signatures = early := Except.ok.inj (read.symm.trans readEarly)
  have kept : typedFor target.signatures.eraseDups <+: typedFor targetAbove.signatures.eraseDups :=
    FunctionRef.prefix_typedFor (both ▸ eraseDups_prefix_append _ late)
  rw [refs, refsAbove]
  refine ⟨fun same => ?_, fun on off => ?_, fun off on => ?_, _, late, readEarly, readLate, ?_⟩
  · have sameHandle : target.handle = targetAbove.handle :=
      isHandle.trans (same.trans isHandleAbove.symm)
    rw [Target.list_functionRefs, Target.list_functionRefs, ← sameHandle]
    cases target.handle with
    | false => exact kept
    | true => exact (List.prefix_cons_inj _).mpr (kept.map oneLater)
  · rw [Target.typed_functionRefs, Target.typed_functionRefs, isHandle, isHandleAbove, if_pos on,
      if_neg (Bool.eq_false_iff.mp off)]
    exact ⟨_, kept, rfl⟩
  · rw [Target.typed_functionRefs, Target.typed_functionRefs, isHandle, isHandleAbove, if_pos on,
      if_neg (Bool.eq_false_iff.mp off)]
    exact kept.map oneLater
  · rw [Target.typedSignatures_functionRefs, both]

/-- A layer that turns the handle off and spells a signature of the layer below in its own
way. -/
theorem overlay_keeps_references_handle_off :
    let lower : Settings :=
      { toolchain := some "gcc-9", allocator := some "GC_malloc"
        signatures := ["i32(i32)", "void()"] }
    let upper : Settings := { handle := some false, signatures := [" i32 ( i32 ) ", "u8*(...)"] }
    let call : Signature := { ret := .int .i32, params := [.int .i32] }
    let gathering : Signature := { ret := ⟨.scalar (.int .u8), 1⟩, variadic := true }
    ∃ below above, lower.prologue = .ok below ∧ (lower.overlay upper).prologue = .ok above ∧
      below.functionRefs.typed.map (·.id) = [1, 2] ∧
      (∃ kept, kept <+: above.functionRefs.typed ∧
        below.functionRefs.typed = kept.map oneLater) ∧
      above.functionRefs.typedSignatures = [call, { ret := .void }, gathering] := by
  intro lower upper call gathering
  let backend : Backend := ⟨.gnu, "GC_malloc", by decide⟩
  let target : Target :=
    { compiler := .gnu 9, allocator := some "GC_malloc", signatures := [call, { ret := .void }] }
  let targetAbove : Target :=
    { target with handle := false, signatures := target.signatures ++ [call, gathering] }
  have named : Compiler.parse "gcc-9" = .ok (.gnu 9) := by decide +kernel
  have described : lower.target = .ok target :=
    target_eq_ok_iff.mpr ⟨_, _, _, named, rfl, by decide, rfl⟩
  have describedAbove : (lower.overlay upper).target = .ok targetAbove :=
    target_eq_ok_iff.mpr ⟨_, _, targetAbove.signatures, named, rfl, by decide, rfl⟩
  have made : lower.prologue = .ok ⟨backend, target.functionRefs, target.layout⟩ :=
    bind_eq_ok_iff.mpr ⟨target, described, Target.prologue_of_checked (by decide) rfl rfl⟩
  have layered : (lower.overlay upper).prologue =
      .ok ⟨backend, targetAbove.functionRefs, targetAbove.layout⟩ :=
    bind_eq_ok_iff.mpr
      ⟨targetAbove, describedAbove, Target.prologue_of_checked (by decide) rfl rfl⟩
  obtain ⟨_, turnedOff, _, early, late, readEarly, readLate, signatures⟩ :=
    overlay_keeps_references made layered
  obtain rfl : [call, { ret := .void }] = early :=
    Except.ok.inj (Eq.trans (by decide) readEarly)
  obtain rfl : [call, gathering] = late := Except.ok.inj (Eq.trans (by decide) readLate)
  exact ⟨_, _, made, layered, by decide, turnedOff rfl rfl, signatures.trans (by decide)⟩

end Settings

end PortableC
