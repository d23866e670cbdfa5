import PortableC.Proofs.Checks
import PortableC.Proofs.FunctionRef.History

namespace PortableC

/-! What the checks on stores and calls say together.

A store is right when the reference is one for the function, and a call is right when the
function takes the arguments.  A call that brings a descriptor is checked as a store of the
descriptor and then against it; a call without one is checked against the type of the
reference, which is the signature of any function that could be stored there.
-/

namespace Signature

variable {signature : Signature} {arguments : List CType}

/-- The parameters in order, and more arguments only if the signature is open for them. -/
def Takes (signature : Signature) (arguments : List CType) : Prop :=
  ∃ more, arguments = signature.params ++ more ∧ (signature.variadic = false → more = [])

theorem admits_iff : signature.admits arguments = true ↔ signature.Takes arguments := by
  obtain ⟨ret, params, variadic⟩ := signature
  cases variadic with
  | true =>
      simp only [admits, Takes, ↓reduceIte, List.isPrefixOf_iff_prefix, Bool.true_eq_false,
        false_implies, and_true]
      exact exists_congr fun more => eq_comm
  | false =>
      simp only [admits, Takes, Bool.false_eq_true, ↓reduceIte, beq_iff_eq, forall_const,
        exists_eq_right, List.append_nil]
      exact eq_comm

end Signature

namespace FunctionRef

variable {ref : FunctionRef} {source callee : Signature} {arguments : List CType} {error : Error}

theorem checkStore_typed (typed : ref.kind = .typed) :
    ref.checkStore source = .ok () ↔ source = ref.signature := by
  rw [checkStore, typed]
  by_cases same : ref.signature = source
  · simp [same]
  · simp [same, Ne.symm same]

theorem checkStore_handle (handle : ref.kind = .handle) :
    ref.checkStore source = .ok () ↔ source.ret = ref.signature.ret := by
  rw [checkStore, handle]
  by_cases same : ref.signature.ret = source.ret
  · simp [same]
  · simp [same, Ne.symm same]

theorem checkArguments_eq_ok_iff :
    ref.checkArguments callee arguments = .ok () ↔ callee.Takes arguments := by
  rw [← Signature.admits_iff, checkArguments]
  cases callee.admits arguments <;> simp

theorem checkArguments_eq_error_iff :
    ref.checkArguments callee arguments = .error error ↔
      ¬ callee.Takes arguments ∧ error = .argumentMismatch ref.name callee arguments := by
  rw [← Signature.admits_iff, checkArguments]
  cases callee.admits arguments <;> simp [eq_comm]

end FunctionRef

namespace FunctionRefs

variable {refs : FunctionRefs} {ref : FunctionRef} {id : Nat} {descriptor : Signature}
  {arguments : List CType} {error : Error}

theorem find_of_get? (found : refs.get? id = some ref) : refs.find id = .ok ref := by
  rw [find, found]

theorem checkStore_of_get? (found : refs.get? id = some ref) (source : Signature) :
    refs.checkStore id source = ref.checkStore source := by
  rw [checkStore, find_of_get? found]
  rfl

theorem checkDescribedCall_of_get? (found : refs.get? id = some ref) (descriptor : Signature)
    (arguments : List CType) :
    refs.checkDescribedCall id descriptor arguments =
      ref.checkStore descriptor >>= fun _ => ref.checkArguments descriptor arguments := by
  rw [checkDescribedCall, find_of_get? found]
  rfl

theorem checkTypedCall_typed (found : refs.get? id = some ref) (typed : ref.kind = .typed)
    (arguments : List CType) :
    refs.checkTypedCall id arguments = ref.checkArguments ref.signature arguments := by
  simp only [checkTypedCall, find_of_get? found, bind, Except.bind, typed]

theorem checkTypedCall_handle (found : refs.get? id = some ref) (handle : ref.kind = .handle)
    (arguments : List CType) :
    refs.checkTypedCall id arguments = .error (.missingDescriptor ref.name) := by
  simp only [checkTypedCall, find_of_get? found, bind, Except.bind, handle]

/-- Every check looks its reference up first. -/
theorem unknown_of_get? (missing : refs.get? id = none) (source : Signature)
    (arguments : List CType) :
    refs.checkStore id source = .error (.unknownReference id) ∧
      refs.checkTypedCall id arguments = .error (.unknownReference id) ∧
      refs.checkDescribedCall id source arguments = .error (.unknownReference id) := by
  have unknown : refs.find id = .error (.unknownReference id) := by rw [find, missing]
  simp only [checkStore, checkTypedCall, checkDescribedCall, unknown, bind, Except.bind, and_self]

theorem checkDescribedCall_eq_ok_iff :
    refs.checkDescribedCall id descriptor arguments = .ok () ↔
      refs.checkStore id descriptor = .ok () ∧ descriptor.Takes arguments := by
  cases found : refs.get? id with
  | none =>
      obtain ⟨unstored, _, uncalled⟩ := unknown_of_get? found descriptor arguments
      simp [unstored, uncalled]
  | some ref =>
      rw [checkDescribedCall_of_get? found, checkStore_of_get? found, bind_eq_ok_iff,
        Unique.exists_iff]
      exact and_congr_right fun _ => FunctionRef.checkArguments_eq_ok_iff

/-- What is wrong with the store is said first. -/
theorem checkDescribedCall_eq_error_iff :
    refs.checkDescribedCall id descriptor arguments = .error error ↔
      refs.checkStore id descriptor = .error error ∨
        refs.checkStore id descriptor = .ok () ∧ ¬ descriptor.Takes arguments ∧
          ∃ ref, refs.get? id = some ref ∧
            error = .argumentMismatch ref.name descriptor arguments := by
  cases found : refs.get? id with
  | none =>
      obtain ⟨unstored, _, uncalled⟩ := unknown_of_get? found descriptor arguments
      simp [unstored, uncalled]
  | some ref =>
      rw [checkDescribedCall_of_get? found, checkStore_of_get? found, bind_eq_error_iff,
        Unique.exists_iff, FunctionRef.checkArguments_eq_error_iff]
      simp

/-- A typed call is a described one for the signature of the reference. -/
theorem checkTypedCall_eq_checkDescribedCall (found : refs.get? id = some ref)
    (typed : ref.kind = .typed) (arguments : List CType) :
    refs.checkTypedCall id arguments = refs.checkDescribedCall id ref.signature arguments := by
  have own := (FunctionRef.checkStore_typed typed).mpr (rfl : ref.signature = ref.signature)
  rw [checkTypedCall_typed found typed, checkDescribedCall_of_get? found, own]
  rfl

theorem admits_of_checks {source : Signature} (stored : refs.checkStore id source = .ok ())
    (called : refs.checkTypedCall id arguments = .ok ()) : source.admits arguments = true := by
  cases found : refs.get? id with
  | none =>
      obtain ⟨unstored, _⟩ := unknown_of_get? found source arguments
      cases unstored.symm.trans stored
  | some ref =>
      rw [checkStore_of_get? found] at stored
      cases kind : ref.kind with
      | typed =>
          rw [checkTypedCall_typed found kind, FunctionRef.checkArguments_eq_ok_iff] at called
          rw [(FunctionRef.checkStore_typed kind).mp stored]
          exact Signature.admits_iff.mpr called
      | handle => cases (checkTypedCall_handle found kind arguments).symm.trans called

/-- However references came to be registered, the checks on stores and calls agree.  An id
that was not given out is unknown to all of them.  A call with a descriptor is right when the
descriptor could be stored and takes the arguments, and what is wrong with the store is said
first.  A typed reference holds functions of its own signature, and a call through it is
checked as one that brings this signature along.  The handle holds any function that returns
an `i32`, and no call through it goes without a descriptor.  So a function that could be
stored takes the arguments of every call that was found right. -/
theorem stores_and_calls_agree (handle : Bool) (run : List Registration) :
    let refs := (initial handle).performAll run
    (∀ id, refs.size ≤ id → ∀ source arguments,
      refs.checkStore id source = .error (.unknownReference id) ∧
        refs.checkTypedCall id arguments = .error (.unknownReference id) ∧
        refs.checkDescribedCall id source arguments = .error (.unknownReference id)) ∧
    (∀ id descriptor arguments,
      (refs.checkDescribedCall id descriptor arguments = .ok () ↔
        refs.checkStore id descriptor = .ok () ∧ descriptor.Takes arguments) ∧
      ∀ error, refs.checkDescribedCall id descriptor arguments = .error error ↔
        refs.checkStore id descriptor = .error error ∨
          refs.checkStore id descriptor = .ok () ∧ ¬ descriptor.Takes arguments ∧
            ∃ ref, refs.get? id = some ref ∧
              error = .argumentMismatch ref.name descriptor arguments) ∧
    (∀ id ref, refs.get? id = some ref → ref.kind = .typed →
      (∀ source, refs.checkStore id source = .ok () ↔ source = ref.signature) ∧
        ∀ arguments, refs.checkTypedCall id arguments =
          refs.checkDescribedCall id ref.signature arguments) ∧
    (∀ id ref, refs.get? id = some ref → ref.kind = .handle →
      (∀ source, refs.checkStore id source = .ok () ↔ source.ret = .int .i32) ∧
        ∀ arguments, refs.checkTypedCall id arguments = .error (.missingDescriptor ref.name)) ∧
    ∀ id source arguments, refs.checkStore id source = .ok () →
      refs.checkTypedCall id arguments = .ok () → source.admits arguments = true := by
  intro refs
  have wellFormed : refs.WellFormed := (WellFormed.initial handle).performAll run
  refine ⟨fun id unissued source arguments => ?_, fun id descriptor arguments => ?_,
    fun id ref found typed => ⟨fun source => ?_, fun arguments => ?_⟩,
    fun id ref found isHandle => ⟨fun source => ?_, fun arguments => ?_⟩,
    fun id source arguments => admits_of_checks⟩
  · exact unknown_of_get? (List.getElem?_eq_none unissued) source arguments
  · exact ⟨checkDescribedCall_eq_ok_iff, fun error => checkDescribedCall_eq_error_iff⟩
  · rw [checkStore_of_get? found, FunctionRef.checkStore_typed typed]
  · exact checkTypedCall_eq_checkDescribedCall found typed arguments
  · have signed := wellFormed.handleSigned ref (List.mem_of_getElem? found) isHandle
    rw [checkStore_of_get? found, FunctionRef.checkStore_handle isHandle, signed]
    rfl
  · exact checkTypedCall_handle found isHandle arguments

/-- A variadic function is stored in a reference of its type and in the handle, and called with
one argument more than it has parameters. -/
theorem stores_and_calls_agree_variadic :
    let printing : Signature := { ret := .int .i32, params := [.voidPointer], variadic := true }
    let arguments : List CType := [.voidPointer, .int .u8]
    let refs := (initial true).performAll [.typed printing]
    refs.size ≤ 2 ∧ refs.checkStore 2 printing = .error (.unknownReference 2) ∧
      refs.get? 0 = some ⟨0, handleName, handleSignature, .handle⟩ ∧
      refs.get? 1 = some ⟨1, "fn_i32_voidp_va", printing, .typed⟩ ∧
      refs.checkStore 0 printing = .ok () ∧
      refs.checkTypedCall 0 arguments = .error (.missingDescriptor handleName) ∧
      refs.checkDescribedCall 0 printing arguments = .ok () ∧
      refs.checkStore 1 printing = .ok () ∧ refs.checkTypedCall 1 arguments = .ok () ∧
      printing.admits arguments = true := by
  intro printing arguments refs
  obtain ⟨unissued, described, typed, held, sound⟩ :=
    stores_and_calls_agree true [.typed printing]
  have takes : printing.Takes arguments := ⟨[.int .u8], rfl, nofun⟩
  have beyond : refs.size ≤ 2 := by decide
  have handleFound : refs.get? 0 = some ⟨0, handleName, handleSignature, .handle⟩ := by decide
  have typedFound : refs.get? 1 = some ⟨1, "fn_i32_voidp_va", printing, .typed⟩ := by decide
  obtain ⟨handleHolds, undescribed⟩ := held 0 _ handleFound rfl
  obtain ⟨typedHolds, asDescribed⟩ := typed 1 _ typedFound rfl
  have inHandle : refs.checkStore 0 printing = .ok () := (handleHolds printing).mpr rfl
  have inTyped : refs.checkStore 1 printing = .ok () := (typedHolds printing).mpr rfl
  have called : refs.checkTypedCall 1 arguments = .ok () :=
    (asDescribed arguments).trans ((described 1 printing arguments).1.mpr ⟨inTyped, takes⟩)
  exact ⟨beyond, (unissued 2 beyond printing arguments).1, handleFound, typedFound, inHandle,
    undescribed arguments, (described 0 printing arguments).1.mpr ⟨inHandle, takes⟩, inTyped,
    called, sound 1 printing arguments inTyped called⟩

end FunctionRefs

end PortableC
