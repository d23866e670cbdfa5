import Mathlib.Data.List.Induction
import Mathlib.Data.List.ReduceOption
import PortableC.FunctionRef.Check
import PortableC.Proofs.FunctionRef.Registration

namespace PortableC

/-! A list of references is the history of its requests without the repetitions.

Each request is for a purpose.  The references serve the purposes of the requests in
the order in which these came for the first time, and the place of a purpose says
everything else about its reference.  So a request that is made again finds what it
got before, and one that is new adds to the end and leaves the rest alone.
-/

section
variable {α : Type} [BEq α] [LawfulBEq α]

theorem eraseDups_concat (items : List α) (item : α) :
    (items ++ [item]).eraseDups =
      if item ∈ items then items.eraseDups else items.eraseDups ++ [item] := by
  rw [List.eraseDups_append]
  by_cases earlier : item ∈ items
  · simp [List.removeAll, earlier]
  · simp [List.removeAll, earlier, List.eraseDups_cons]

theorem reduceOption_eraseDups (items : List (Option α)) :
    items.eraseDups.reduceOption = items.reduceOption.eraseDups := by
  induction items using List.reverseRecOn with
  | nil => rfl
  | append_singleton items item induction =>
      rw [eraseDups_concat, List.reduceOption_append, List.reduceOption_singleton]
      cases item with
      | none =>
          simp only [Option.toList_none, List.append_nil, ← induction]
          split
          · rfl
          · rw [List.reduceOption_append, List.reduceOption_singleton, Option.toList_none,
              List.append_nil]
      | some value =>
          simp only [Option.toList_some, eraseDups_concat, List.reduceOption_mem_iff, ← induction]
          split
          · rfl
          · rw [List.reduceOption_append, List.reduceOption_singleton, Option.toList_some]

end

namespace Registration

/-- The signature that is asked for; the handle is for no single one. -/
def purpose : Registration → Option Signature
  | .handle => none
  | .typed signature => some signature

theorem purpose_injective : Function.Injective purpose := by
  intro first second same
  cases first <;> cases second <;> simp_all [purpose]

/-- The requests behind references that may have begun with the handle. -/
def history (handle : Bool) (run : List Registration) : List Registration :=
  if handle then .handle :: run else run

def signatures (run : List Registration) : List Signature :=
  run.filterMap purpose

end Registration

namespace FunctionRef

variable {ref : FunctionRef}

/-- What a request may expect of the reference that it gets. -/
def Answers (ref : FunctionRef) : Registration → Prop
  | .handle => ref.kind = .handle ∧ ref.signature = FunctionRefs.handleSignature
  | .typed signature => ref.kind = .typed ∧ ref.signature = signature

/-- The reference that serves a purpose in its place. -/
def serving (id : Nat) (purpose : Option Signature) : FunctionRef where
  id
  name := nameOf purpose
  signature := purpose.getD FunctionRefs.handleSignature
  kind := if purpose.isSome then .typed else .handle

@[simp] theorem serving_purpose (id : Nat) (purpose : Option Signature) :
    (serving id purpose).purpose = purpose := by
  cases purpose <;> rfl

end FunctionRef

namespace FunctionRefs

open FunctionRef (nameOf)

variable {refs : FunctionRefs} {ref : FunctionRef} {registration : Registration}
  {signature : Signature}

/-- The reference that a request finds. -/
def serving? (refs : FunctionRefs) : Registration → Option FunctionRef
  | .handle => refs.handle?
  | .typed signature => refs.ofSignature? signature

theorem serving?_eq_find? (refs : FunctionRefs) (registration : Registration) :
    refs.serving? registration = refs.list.find? (·.purpose == registration.purpose) := by
  cases registration with
  | handle =>
      simp only [serving?, handle?]
      congr 1
      funext ref
      rw [Bool.eq_iff_iff, beq_iff_eq, beq_iff_eq]
      exact purpose_eq_none_iff.symm
  | typed signature =>
      simp only [serving?, ofSignature?]
      congr 1
      funext ref
      rw [Bool.eq_iff_iff, Bool.and_eq_true, beq_iff_eq, beq_iff_eq, beq_iff_eq]
      exact purpose_eq_some_iff.symm

theorem serving?_eq_none_iff :
    refs.serving? registration = none ↔ registration.purpose ∉ refs.list.map (·.purpose) := by
  simp [serving?_eq_find?]

/-- The references of one request more, when none serves it so far. -/
def extend (refs : FunctionRefs) (registration : Registration) : FunctionRefs :=
  { list := refs.list ++ [.serving refs.size registration.purpose] }

namespace WellFormed

/-- The purposes say it all. -/
theorem list_eq (wellFormed : refs.WellFormed) :
    refs.list = (refs.list.map (·.purpose)).mapIdx FunctionRef.serving := by
  apply List.ext_getElem (by simp)
  intro index inside _
  have listed : refs.list[index] ∈ refs.list := List.getElem_mem inside
  have id : refs.list[index].id = index := by
    have ids := congrArg (·[index]?) wellFormed.ids
    simpa [inside, size] using ids
  have named := wellFormed.named _ listed
  have handleSigned := wellFormed.handleSigned _ listed
  rw [List.getElem_mapIdx, List.getElem_map]
  generalize refs.list[index] = ref at id named handleSigned
  obtain ⟨_, _, signature, kind⟩ := ref
  cases kind <;> simp_all [FunctionRef.serving, FunctionRef.purpose, RefKind.purpose]

theorem get?_id (wellFormed : refs.WellFormed) {id : Nat} (found : refs.get? id = some ref) :
    ref.id = id := by
  rw [get?, wellFormed.list_eq, List.getElem?_mapIdx] at found
  obtain ⟨purpose, _, rfl⟩ := Option.map_eq_some_iff.mp found
  rfl

theorem get?_of_mem (wellFormed : refs.WellFormed) (listed : ref ∈ refs.list) :
    refs.get? ref.id = some ref := by
  obtain ⟨index, found⟩ := List.mem_iff_getElem?.mp listed
  rwa [wellFormed.get?_id found]

/-- No two references serve one purpose. -/
theorem eq_of_purpose (wellFormed : refs.WellFormed) {left right : FunctionRef}
    (leftListed : left ∈ refs.list) (rightListed : right ∈ refs.list)
    (same : left.purpose = right.purpose) : left = right :=
  List.inj_on_of_nodup_map wellFormed.distinct leftListed rightListed same

theorem serving?_eq_some_iff (wellFormed : refs.WellFormed) (registration : Registration) :
    refs.serving? registration = some ref ↔
      ref ∈ refs.list ∧ ref.purpose = registration.purpose := by
  rw [serving?_eq_find?]
  constructor
  · intro found
    have serves := List.find?_some found
    exact ⟨List.mem_of_find?_eq_some found, by simpa using serves⟩
  · rintro ⟨listed, serves⟩
    cases found : refs.list.find? (·.purpose == registration.purpose) with
    | none => exact absurd serves (by simpa using List.find?_eq_none.mp found ref listed)
    | some other =>
        have otherServes : other.purpose = registration.purpose := by
          simpa using List.find?_some found
        rw [wellFormed.eq_of_purpose (List.mem_of_find?_eq_some found) listed
          (otherServes.trans serves.symm)]

theorem perform_served (found : refs.serving? registration = some ref) :
    refs.perform registration = (refs, ref.id) := by
  cases registration with
  | handle =>
      simp only [serving?] at found
      simp only [FunctionRefs.perform, FunctionRefs.registerHandle, found]
  | typed signature =>
      simp only [serving?] at found
      simp only [FunctionRefs.perform, FunctionRefs.register, found]

theorem perform_new (wellFormed : refs.WellFormed)
    (missing : refs.serving? registration = none) :
    refs.perform registration = (refs.extend registration, refs.size) := by
  cases registration with
  | handle =>
      simp only [serving?] at missing
      simp only [FunctionRefs.perform, FunctionRefs.registerHandle, missing]
      rfl
  | typed signature =>
      simp only [serving?] at missing
      simp only [FunctionRefs.perform, FunctionRefs.register, missing,
        wellFormed.freshName_pointerName missing]
      rfl

/-- What one request does: it finds what serves it, or adds that to the end. -/
theorem perform_cases (wellFormed : refs.WellFormed) (registration : Registration) :
    (∃ ref ∈ refs.list, ref.purpose = registration.purpose ∧
      refs.perform registration = (refs, ref.id)) ∨
    (registration.purpose ∉ refs.list.map (·.purpose) ∧
      refs.perform registration = (refs.extend registration, refs.size)) := by
  cases found : refs.serving? registration with
  | some ref =>
      obtain ⟨listed, serves⟩ := (wellFormed.serving?_eq_some_iff registration).mp found
      exact .inl ⟨ref, listed, serves, perform_served found⟩
  | none => exact .inr ⟨serving?_eq_none_iff.mp found, wellFormed.perform_new found⟩

theorem answers_iff (wellFormed : refs.WellFormed) (listed : ref ∈ refs.list) :
    ref.Answers registration ↔ ref.purpose = registration.purpose := by
  cases registration with
  | handle =>
      rw [Registration.purpose, purpose_eq_none_iff, FunctionRef.Answers]
      exact and_iff_left_of_imp (wellFormed.handleSigned ref listed)
  | typed signature => exact purpose_eq_some_iff.symm

theorem exists_get?_perform (wellFormed : refs.WellFormed) (registration : Registration) :
    ∃ ref, (refs.perform registration).1.get? (refs.perform registration).2 = some ref ∧
      ref.purpose = registration.purpose := by
  rcases wellFormed.perform_cases registration with ⟨ref, listed, serves, done⟩ | ⟨_, done⟩
  · exact ⟨ref, by rw [done]; exact wellFormed.get?_of_mem listed, serves⟩
  · refine ⟨.serving refs.size registration.purpose, ?_, FunctionRef.serving_purpose _ _⟩
    simp [done, extend, get?, size]

theorem prefix_perform (wellFormed : refs.WellFormed) (registration : Registration) :
    refs.list <+: (refs.perform registration).1.list := by
  rcases wellFormed.perform_cases registration with ⟨_, _, _, done⟩ | ⟨_, done⟩
  · simp only [done, List.prefix_rfl]
  · simp only [done, extend, List.prefix_append]

/-- References that are listed stay as and where they are. -/
theorem prefix_performAll (wellFormed : refs.WellFormed) (later : List Registration) :
    refs.list <+: (refs.performAll later).list := by
  induction later generalizing refs with
  | nil => exact List.prefix_rfl
  | cons registration later induction =>
      exact (wellFormed.prefix_perform registration).trans
        (induction (wellFormed.perform registration))

theorem get?_performAll (wellFormed : refs.WellFormed) (later : List Registration) {id : Nat}
    (issued : id < refs.size) : (refs.performAll later).get? id = refs.get? id := by
  obtain ⟨added, whole⟩ := wellFormed.prefix_performAll later
  rw [get?, ← whole]
  exact List.getElem?_append_left issued

theorem perform_again (wellFormed : refs.WellFormed) (registration : Registration)
    (later : List Registration) :
    let after := (refs.perform registration).1.performAll later
    after.perform registration = (after, (refs.perform registration).2) := by
  intro after
  obtain ⟨ref, found, serves⟩ := wellFormed.exists_get?_perform registration
  have next := wellFormed.perform registration
  have kept : ref ∈ after.list :=
    (next.prefix_performAll later).subset (List.mem_of_getElem? found)
  have again := ((next.performAll later).serving?_eq_some_iff registration).mpr ⟨kept, serves⟩
  rw [perform_served again, next.get?_id found]

theorem countP_handle_le_one (wellFormed : refs.WellFormed) :
    refs.list.countP (·.kind == .handle) ≤ 1 := by
  have counted := List.nodup_iff_count_le_one.mp wellFormed.distinct none
  rw [List.count, List.countP_map] at counted
  refine Nat.le_trans (List.countP_mono_left fun ref _ isHandle => ?_) counted
  exact beq_iff_eq.mpr (purpose_eq_none_iff.mpr (beq_iff_eq.mp isHandle))

end WellFormed

theorem performAll_concat (refs : FunctionRefs) (run : List Registration)
    (registration : Registration) :
    refs.performAll (run ++ [registration]) = ((refs.performAll run).perform registration).1 := by
  simp [performAll]

theorem initial_performAll (handle : Bool) (run : List Registration) :
    (initial handle).performAll run = empty.performAll (Registration.history handle run) := by
  cases handle <;> rfl

/-- The references serve the purposes of the requests, each once and in the order in
which they came up. -/
theorem purposes_performAll (run : List Registration) :
    (empty.performAll run).list.map (·.purpose) =
      (run.map Registration.purpose).eraseDups := by
  induction run using List.reverseRecOn with
  | nil => rfl
  | append_singleton run registration induction =>
      have served : registration.purpose ∈ run.map Registration.purpose ↔
          registration.purpose ∈ (empty.performAll run).list.map (·.purpose) := by
        rw [induction, List.mem_eraseDups]
      rw [performAll_concat, List.map_append, List.map_singleton, eraseDups_concat]
      simp only [served, ← induction]
      rcases (WellFormed.empty.performAll run).perform_cases registration with
        ⟨ref, listed, serves, done⟩ | ⟨new, done⟩
      · rw [done, if_pos (serves ▸ List.mem_map_of_mem listed)]
      · rw [done, if_neg new, extend, List.map_append, List.map_singleton,
          FunctionRef.serving_purpose]

theorem purpose_mem_iff (run : List Registration) (registration : Registration) :
    registration.purpose ∈ (empty.performAll run).list.map (·.purpose) ↔ registration ∈ run := by
  rw [purposes_performAll, List.mem_eraseDups]
  exact List.mem_map_of_injective Registration.purpose_injective

theorem serving?_performAll_eq_none_iff (run : List Registration) (registration : Registration) :
    (empty.performAll run).serving? registration = none ↔ registration ∉ run := by
  rw [serving?_eq_none_iff, purpose_mem_iff]

def typedSignatures (refs : FunctionRefs) : List Signature :=
  (refs.list.filter (·.kind == .typed)).map (·.signature)

theorem typedSignatures_eq (refs : FunctionRefs) :
    refs.typedSignatures = (refs.list.map (·.purpose)).reduceOption := by
  obtain ⟨list⟩ := refs
  simp only [typedSignatures]
  induction list with
  | nil => rfl
  | cons ref list induction =>
      obtain ⟨id, name, signature, kind⟩ := ref
      cases kind <;> simpa [FunctionRef.purpose, RefKind.purpose] using induction

theorem mem_typedSignatures_iff :
    signature ∈ refs.typedSignatures ↔ some signature ∈ refs.list.map (·.purpose) := by
  rw [typedSignatures_eq, List.reduceOption_mem_iff]

theorem typedSignatures_performAll (run : List Registration) :
    (empty.performAll run).typedSignatures = (Registration.signatures run).eraseDups := by
  rw [typedSignatures_eq, purposes_performAll, reduceOption_eraseDups, Registration.signatures,
    List.reduceOption, List.filterMap_map]
  rfl

theorem WellFormed.typedSignatures_nodup (wellFormed : refs.WellFormed) :
    refs.typedSignatures.Nodup := by
  rw [typedSignatures_eq]
  exact wellFormed.distinct.filterMap fun _ _ _ left right => left.trans right.symm

theorem perform_of_mem {run : List Registration} (earlier : registration ∈ run) :
    ((empty.performAll run).perform registration).1 = empty.performAll run := by
  rcases (WellFormed.empty.performAll run).perform_cases registration with
    ⟨_, _, _, done⟩ | ⟨new, _⟩
  · rw [done]
  · exact absurd ((purpose_mem_iff run registration).mpr earlier) new

theorem perform_of_not_mem {run : List Registration} (new : registration ∉ run) :
    ((empty.performAll run).perform registration).1 =
      (empty.performAll run).extend registration := by
  rcases (WellFormed.empty.performAll run).perform_cases registration with
    ⟨ref, listed, serves, _⟩ | ⟨_, done⟩
  · exact absurd ((purpose_mem_iff run registration).mp (serves ▸ List.mem_map_of_mem listed)) new
  · rw [done]

end FunctionRefs

end PortableC
