import Mathlib.Data.Option.Basic
import PortableC.Proofs.FunctionRef.History
import PortableC.Target

namespace PortableC

/-! Where the function references of a target stand.

The references of a target are the handle, if it has one, and one typed reference for each
signature, in the order in which the signatures came up.  The handle stands in front, so it
moves every other reference by one place.
-/

section
variable {α β : Type} [BEq α] [LawfulBEq α] [BEq β] [LawfulBEq β]

theorem eraseDups_map {change : α → β} (injective : Function.Injective change)
    (items : List α) : (items.map change).eraseDups = items.eraseDups.map change := by
  induction items using List.reverseRecOn with
  | nil => rfl
  | append_singleton items item induction =>
      rw [List.map_append, List.map_singleton, eraseDups_concat, eraseDups_concat, induction]
      by_cases earlier : item ∈ items
      · rw [if_pos earlier, if_pos (List.mem_map_of_mem earlier)]
      · rw [if_neg earlier, if_neg ((List.mem_map_of_injective injective).not.mpr earlier),
          List.map_append, List.map_singleton]

theorem eraseDups_prefix_append (items more : List α) :
    items.eraseDups <+: (items ++ more).eraseDups := by
  rw [List.eraseDups_append]
  exact List.prefix_append _ _

end

namespace FunctionRef

/-- The same reference one place further behind. -/
def oneLater (ref : FunctionRef) : FunctionRef :=
  { ref with id := ref.id + 1 }

/-- One typed reference for each signature. -/
def typedFor (signatures : List Signature) : List FunctionRef :=
  (signatures.map some).mapIdx serving

theorem prefix_typedFor {signatures more : List Signature} (extended : signatures <+: more) :
    typedFor signatures <+: typedFor more := by
  obtain ⟨added, rfl⟩ := extended
  rw [typedFor, typedFor, List.map_append, List.mapIdx_append]
  exact List.prefix_append _ _

theorem kind_of_mem_typedFor {signatures : List Signature} {ref : FunctionRef}
    (listed : ref ∈ typedFor signatures) : ref.kind = .typed := by
  obtain ⟨id, inside, rfl⟩ := List.mem_mapIdx.mp listed
  rw [List.getElem_map]
  rfl

theorem mapIdx_serving_cons (purpose : Option Signature) (purposes : List (Option Signature)) :
    (purpose :: purposes).mapIdx serving =
      serving 0 purpose :: (purposes.mapIdx serving).map oneLater := by
  rw [List.mapIdx_cons]
  refine congrArg _ (List.ext_getElem? fun id => ?_)
  rw [List.getElem?_mapIdx, List.getElem?_map, List.getElem?_mapIdx, Option.map_map]
  rfl

end FunctionRef

namespace FunctionRefs

def typed (refs : FunctionRefs) : List FunctionRef :=
  refs.list.filter (·.kind == .typed)

end FunctionRefs

open FunctionRef (oneLater serving typedFor)

namespace Target

variable (target : Target)

theorem purposes_functionRefs :
    target.functionRefs.list.map (·.purpose) =
      (if target.handle then [none] else []) ++ target.signatures.eraseDups.map some := by
  have purposes : (target.signatures.map Registration.typed).map Registration.purpose =
      target.signatures.map some := by
    rw [List.map_map]
    rfl
  rw [functionRefs, FunctionRefs.registerAll_eq_performAll, FunctionRefs.initial_performAll,
    FunctionRefs.purposes_performAll, ← eraseDups_map (Option.some_injective _), ← purposes]
  cases target.handle with
  | false => rfl
  | true =>
      have others : (target.signatures.map some).filter (fun purpose => !purpose == none) =
          target.signatures.map some := by
        simp
      rw [Registration.history, if_pos rfl, List.map_cons, Registration.purpose,
        List.eraseDups_cons, purposes, others]
      rfl

/-- The references of a target, with their places. -/
theorem list_functionRefs :
    target.functionRefs.list =
      if target.handle then
        serving 0 none :: (typedFor target.signatures.eraseDups).map oneLater
      else typedFor target.signatures.eraseDups := by
  have wellFormed : target.functionRefs.WellFormed :=
    (FunctionRefs.WellFormed.initial target.handle).registerAll target.signatures
  rw [wellFormed.list_eq, purposes_functionRefs]
  cases target.handle with
  | false => rfl
  | true => exact FunctionRef.mapIdx_serving_cons none _

theorem typed_functionRefs :
    target.functionRefs.typed =
      if target.handle then (typedFor target.signatures.eraseDups).map oneLater
      else typedFor target.signatures.eraseDups := by
  rw [FunctionRefs.typed, list_functionRefs]
  cases target.handle with
  | false =>
      refine List.filter_eq_self.mpr fun ref listed => beq_iff_eq.mpr ?_
      exact FunctionRef.kind_of_mem_typedFor listed
  | true =>
      refine (List.filter_cons_of_neg (by decide)).trans (List.filter_eq_self.mpr ?_)
      intro ref listed
      obtain ⟨earlier, listedEarlier, rfl⟩ := List.mem_map.mp listed
      have typed : earlier.kind = .typed := FunctionRef.kind_of_mem_typedFor listedEarlier
      exact beq_iff_eq.mpr typed

theorem typedSignatures_functionRefs :
    target.functionRefs.typedSignatures = target.signatures.eraseDups := by
  rw [FunctionRefs.typedSignatures_eq, purposes_functionRefs]
  cases target.handle <;> simp [List.reduceOption]

theorem handle?_functionRefs :
    target.functionRefs.handle? = none ↔ target.handle = false := by
  rw [FunctionRefs.handle?_eq_none_iff, purposes_functionRefs]
  cases target.handle <;> simp

end Target

end PortableC
