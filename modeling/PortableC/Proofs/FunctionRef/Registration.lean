import Mathlib.Data.List.Nodup
import PortableC.FunctionRef
import PortableC.Proofs.Signature.PointerName

namespace PortableC

/-! What registering references keeps, in whatever order they come.

A reference serves one signature, or any, and its name follows from that.  No two
references serve the same, so no two have the same name, and the name made for a
signature is never in use when the signature is new.
-/

inductive Registration where
  | handle
  | typed (signature : Signature)
deriving DecidableEq, Repr

/-- The signature that a typed reference is for; the handle is for no single one. -/
def RefKind.purpose : RefKind → Signature → Option Signature
  | .typed, signature => some signature
  | .handle, _ => none

namespace FunctionRef

def purpose (ref : FunctionRef) : Option Signature :=
  ref.kind.purpose ref.signature

def nameOf : Option Signature → String
  | some signature => signature.pointerName
  | none => handleName

theorem nameOf_injective : Function.Injective nameOf := by
  intro first second same
  rcases first with _ | first <;> rcases second with _ | second
  · rfl
  · exact absurd same.symm second.pointerName_ne_handleName
  · exact absurd same first.pointerName_ne_handleName
  · rw [Signature.pointerName_injective same]

end FunctionRef

namespace FunctionRefs

variable {refs : FunctionRefs} {ref : FunctionRef} {signature : Signature}

open FunctionRef (nameOf)

def perform (refs : FunctionRefs) : Registration → FunctionRefs × Nat
  | .handle => refs.registerHandle
  | .typed signature => refs.register signature

def performAll (refs : FunctionRefs) (registrations : List Registration) : FunctionRefs :=
  registrations.foldl (fun refs registration => (refs.perform registration).1) refs

theorem registerAll_eq_performAll (refs : FunctionRefs) (signatures : List Signature) :
    refs.registerAll signatures = refs.performAll (signatures.map .typed) := by
  simp only [registerAll, performAll, List.foldl_map, perform]

structure WellFormed (refs : FunctionRefs) : Prop where
  ids : refs.list.map (·.id) = List.range refs.size
  named : ∀ ref ∈ refs.list, ref.name = nameOf ref.purpose
  handleSigned : ∀ ref ∈ refs.list, ref.kind = .handle → ref.signature = handleSignature
  distinct : (refs.list.map (·.purpose)).Nodup

theorem purpose_eq_some_iff :
    ref.purpose = some signature ↔ ref.kind = .typed ∧ ref.signature = signature := by
  obtain ⟨id, name, held, kind⟩ := ref
  cases kind <;> simp [FunctionRef.purpose, RefKind.purpose]

theorem purpose_eq_none_iff : ref.purpose = none ↔ ref.kind = .handle := by
  obtain ⟨id, name, held, kind⟩ := ref
  cases kind <;> simp [FunctionRef.purpose, RefKind.purpose]

theorem ofSignature?_eq_none_iff :
    refs.ofSignature? signature = none ↔ some signature ∉ refs.list.map (·.purpose) := by
  simp [ofSignature?, purpose_eq_some_iff]

theorem handle?_eq_none_iff : refs.handle? = none ↔ none ∉ refs.list.map (·.purpose) := by
  simp [handle?, purpose_eq_none_iff]

theorem freshName_of_not_mem {used : List String} {base : String} (unused : base ∉ used) :
    freshName used base = base := by
  simp [freshName, nameCandidates, unused]

namespace WellFormed

theorem names (wellFormed : refs.WellFormed) :
    refs.list.map (·.name) = (refs.list.map (·.purpose)).map nameOf := by
  rw [List.map_map]
  exact List.map_congr_left wellFormed.named

theorem names_nodup (wellFormed : refs.WellFormed) : (refs.list.map (·.name)).Nodup := by
  rw [wellFormed.names]
  exact wellFormed.distinct.map FunctionRef.nameOf_injective

/-- The name for a purpose is in use only when the purpose is served. -/
theorem nameOf_not_mem (wellFormed : refs.WellFormed) {purpose : Option Signature}
    (new : purpose ∉ refs.list.map (·.purpose)) : nameOf purpose ∉ refs.list.map (·.name) := by
  rw [wellFormed.names]
  intro member
  obtain ⟨other, served, same⟩ := List.mem_map.mp member
  exact new (FunctionRef.nameOf_injective same ▸ served)

theorem empty : FunctionRefs.empty.WellFormed where
  ids := rfl
  named := by simp [FunctionRefs.empty]
  handleSigned := by simp [FunctionRefs.empty]
  distinct := List.nodup_nil

theorem push (wellFormed : refs.WellFormed) (kind : RefKind)
    (new : kind.purpose signature ∉ refs.list.map (·.purpose))
    (handleSigned : kind = .handle → signature = handleSignature) :
    (refs.push (nameOf (kind.purpose signature)) signature kind).1.WellFormed where
  ids := by
    simp only [FunctionRefs.push, FunctionRefs.size, List.map_append, List.length_append,
      List.map_cons, List.map_nil, List.length_singleton, List.range_succ]
    rw [wellFormed.ids, FunctionRefs.size]
  named := by
    intro ref member
    rcases List.mem_append.mp member with old | added
    · exact wellFormed.named ref old
    · rw [List.mem_singleton.mp added]
      rfl
  handleSigned := by
    intro ref member isHandle
    rcases List.mem_append.mp member with old | added
    · exact wellFormed.handleSigned ref old isHandle
    · rw [List.mem_singleton.mp added] at isHandle ⊢
      exact handleSigned isHandle
  distinct := by
    simp only [FunctionRefs.push, List.map_append, List.map_cons, List.map_nil]
    exact List.nodup_append.mpr ⟨wellFormed.distinct, List.nodup_singleton _,
      fun purpose served added addedMember same => new (by
        rw [List.mem_singleton] at addedMember
        rw [same, addedMember] at served
        exact served)⟩

theorem registerHandle (wellFormed : refs.WellFormed) : refs.registerHandle.1.WellFormed := by
  cases found : refs.handle? with
  | some ref => simpa only [FunctionRefs.registerHandle, found] using wellFormed
  | none =>
      simp only [FunctionRefs.registerHandle, found]
      exact wellFormed.push .handle (handle?_eq_none_iff.mp found) fun _ => rfl

/-- A new signature gets the name made for it, with no number behind. -/
theorem freshName_pointerName (wellFormed : refs.WellFormed)
    (new : refs.ofSignature? signature = none) :
    freshName (refs.list.map (·.name)) signature.pointerName = signature.pointerName :=
  freshName_of_not_mem (wellFormed.nameOf_not_mem (ofSignature?_eq_none_iff.mp new))

theorem register (wellFormed : refs.WellFormed) (signature : Signature) :
    (refs.register signature).1.WellFormed := by
  cases found : refs.ofSignature? signature with
  | some ref => simpa only [FunctionRefs.register, found] using wellFormed
  | none =>
      simp only [FunctionRefs.register, found, wellFormed.freshName_pointerName found]
      exact wellFormed.push .typed (ofSignature?_eq_none_iff.mp found) nofun

theorem initial (handle : Bool) : (FunctionRefs.initial handle).WellFormed := by
  cases handle with
  | false => exact empty
  | true => exact empty.registerHandle

theorem perform (wellFormed : refs.WellFormed) (registration : Registration) :
    (refs.perform registration).1.WellFormed := by
  cases registration with
  | handle => exact wellFormed.registerHandle
  | typed signature => exact wellFormed.register signature

theorem performAll (wellFormed : refs.WellFormed) (registrations : List Registration) :
    (refs.performAll registrations).WellFormed := by
  induction registrations generalizing refs with
  | nil => exact wellFormed
  | cons registration rest induction => exact induction (wellFormed.perform registration)

theorem registerAll (wellFormed : refs.WellFormed) (signatures : List Signature) :
    (refs.registerAll signatures).WellFormed := by
  rw [registerAll_eq_performAll]
  exact wellFormed.performAll _

end WellFormed

end FunctionRefs

end PortableC
