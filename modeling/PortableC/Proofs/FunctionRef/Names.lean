import PortableC.Proofs.FunctionRef.Registration

namespace PortableC.FunctionRefs

/-! Names of typed references, within one list of references and across lists. -/

open FunctionRef (nameOf)

theorem WellFormed.typed_name {refs : FunctionRefs} {ref : FunctionRef}
    (wellFormed : refs.WellFormed) (listed : ref ∈ refs.list) (typed : ref.kind = .typed) :
    ref.name = ref.signature.pointerName := by
  rw [wellFormed.named ref listed, purpose_eq_some_iff.mpr ⟨typed, rfl⟩]
  rfl

/-- Whatever is registered in whatever order, typed references have the same name
exactly when they have the same signature, also when they are in different lists.
The name is an identifier made from the signature alone, since the name made for
a new signature is never in use. -/
theorem typed_names_identify_signatures (firstHandle secondHandle : Bool)
    (firstRun secondRun : List Registration) :
    let first := (initial firstHandle).performAll firstRun
    let second := (initial secondHandle).performAll secondRun
    (∀ left ∈ first.list, ∀ right ∈ second.list, left.kind = .typed → right.kind = .typed →
      (left.name = right.name ↔ left.signature = right.signature)) ∧
    (∀ ref ∈ first.list, ref.kind = .typed →
      ref.name = ref.signature.pointerName ∧ ref.name ≠ handleName ∧
        Text.isIdentifier ref.name = true ∧ startsWith "fn_" ref.name = true) ∧
    ∀ signature, first.ofSignature? signature = none →
      signature.pointerName ∉ first.list.map (·.name) ∧
        freshName (first.list.map (·.name)) signature.pointerName = signature.pointerName := by
  intro first second
  have firstWellFormed : first.WellFormed := (WellFormed.initial firstHandle).performAll firstRun
  have secondWellFormed : second.WellFormed :=
    (WellFormed.initial secondHandle).performAll secondRun
  refine ⟨?_, ?_, ?_⟩
  · intro left leftListed right rightListed leftTyped rightTyped
    rw [firstWellFormed.typed_name leftListed leftTyped,
      secondWellFormed.typed_name rightListed rightTyped]
    exact ⟨Signature.pointerName_injective, congrArg Signature.pointerName⟩
  · intro ref listed typed
    have name := firstWellFormed.typed_name listed typed
    refine ⟨name, ?_, ?_, ?_⟩ <;> rw [name]
    · exact ref.signature.pointerName_ne_handleName
    · exact ref.signature.isIdentifier_pointerName
    · exact ref.signature.startsWith_pointerName
  · intro signature new
    exact ⟨firstWellFormed.nameOf_not_mem (ofSignature?_eq_none_iff.mp new),
      firstWellFormed.freshName_pointerName new⟩

/-- A parameter `void` and a second star are told apart from each other, and one
signature has one name in both lists. -/
theorem typed_names_identify_signatures_void_parameter :
    let taking : Signature := { ret := .void, params := [.void] }
    let returning : Signature := { ret := { base := .void, stars := 2 }, variadic := true }
    let first := (initial true).performAll [.typed taking]
    let second := (initial false).performAll [.typed returning, .typed taking, .handle]
    let left : FunctionRef := ⟨1, "fn_void_void", taking, .typed⟩
    let right : FunctionRef := ⟨0, "fn_voidpp_va", returning, .typed⟩
    left ∈ first.list ∧ right ∈ second.list ∧ left ∈ second.list ∧
      first.ofSignature? returning = none ∧
      (left.name = right.name ↔ left.signature = right.signature) ∧
      (left.name = left.name ↔ left.signature = left.signature) ∧
      Text.isIdentifier left.name = true ∧
      returning.pointerName ∉ first.list.map (·.name) := by
  intro taking returning first second left right
  have leftListed : left ∈ first.list := by decide
  have rightListed : right ∈ second.list := by decide
  have leftListedAgain : left ∈ second.list := by decide
  have new : first.ofSignature? returning = none := by decide
  obtain ⟨names, shapes, unused⟩ := typed_names_identify_signatures true false
    [.typed taking] [.typed returning, .typed taking, .handle]
  exact ⟨leftListed, rightListed, leftListedAgain, new,
    names left leftListed right rightListed rfl rfl,
    names left leftListed left leftListedAgain rfl rfl,
    (shapes left leftListed rfl).2.2.1, (unused returning new).1⟩

end PortableC.FunctionRefs
