import PortableC.Proofs.Prologue.Tokens
import PortableC.Proofs.Source.Scope

namespace PortableC

/-! Which names a prologue declares, and where it uses them. -/

open Source (DeclaredBeforeUse Item)

def fixedNames : List String :=
  IntType.all.map IntType.stdintName ++ Scalar.all.map Scalar.name

theorem fixedNames_nodup : fixedNames.Nodup := by
  decide

theorem fixedNames_unclaimed : ∀ name ∈ fixedNames, name ≠ handleName ∧
    ∀ beginning ∈ claimedBeginnings, startsWith beginning name = false := by
  decide

theorem FreeName.not_mem_fixedNames {name : String} (free : FreeName name) :
    name ∉ fixedNames := by
  intro listed
  rcases List.mem_append.mp listed with inStdint | inScalars
  · obtain ⟨type, _, same⟩ := List.mem_map.mp inStdint
    exact free.notStdint type same.symm
  · obtain ⟨scalar, _, same⟩ := List.mem_map.mp inScalars
    exact free.notScalar scalar same.symm

namespace FunctionRef

theorem nameOf_generated (purpose : Option Signature) :
    nameOf purpose = handleName ∨ startsWith "fn_" (nameOf purpose) = true := by
  cases purpose with
  | none => exact .inl rfl
  | some signature => exact .inr signature.startsWith_pointerName

theorem nameOf_not_mem_fixedNames (purpose : Option Signature) : nameOf purpose ∉ fixedNames := by
  intro listed
  obtain ⟨notHandle, notGenerated⟩ := fixedNames_unclaimed _ listed
  rcases nameOf_generated purpose with isHandle | starts
  · exact notHandle isHandle
  · rw [notGenerated "fn_" (by decide)] at starts
    cases starts

theorem nameOf_not_startsWith (beginning : String)
    (notHandle : startsWith beginning handleName = false)
    (apart : ¬ "fn_".toList <+: beginning.toList ∧ ¬ beginning.toList <+: "fn_".toList)
    (purpose : Option Signature) : startsWith beginning (nameOf purpose) = false := by
  rcases nameOf_generated purpose with isHandle | starts
  · rw [isHandle, notHandle]
  · exact startsWith_eq_false starts apart

end FunctionRef

theorem FreeName.ne_nameOf {name : String} (free : FreeName name) (purpose : Option Signature) :
    name ≠ FunctionRef.nameOf purpose := by
  rcases FunctionRef.nameOf_generated purpose with isHandle | starts
  · rw [isHandle]
    exact free.notHandle
  · exact free.ne_of_startsWith (by decide) starts

namespace Prologue

variable {prologue : Prologue}

def declaredNames (prologue : Prologue) : List String :=
  fixedNames ++ prologue.functionRefs.list.map FunctionRef.name ++ [prologue.backend.allocator]

theorem Reachable.declaredNames_nodup (reachable : prologue.Reachable) :
    prologue.declaredNames.Nodup := by
  have wellFormed := reachable.functionRefs_wellFormed
  have free := prologue.backend.allocator_free
  have generated : ∀ name ∈ prologue.functionRefs.list.map FunctionRef.name,
      ∃ purpose, name = FunctionRef.nameOf purpose := by
    intro name listed
    obtain ⟨ref, inRefs, rfl⟩ := List.mem_map.mp listed
    exact ⟨_, wellFormed.named ref inRefs⟩
  refine List.nodup_append.mpr ⟨List.nodup_append.mpr
    ⟨fixedNames_nodup, wellFormed.names_nodup, ?_⟩, List.nodup_singleton _, ?_⟩
  · rintro name inFixed _ inRefs rfl
    obtain ⟨purpose, rfl⟩ := generated name inRefs
    exact FunctionRef.nameOf_not_mem_fixedNames purpose inFixed
  · rintro name listed _ isAllocator rfl
    rw [List.mem_singleton] at isAllocator
    rw [isAllocator] at listed
    rcases List.mem_append.mp listed with inFixed | inRefs
    · exact free.not_mem_fixedNames inFixed
    · obtain ⟨purpose, same⟩ := generated _ inRefs
      exact free.ne_nameOf purpose same

theorem Reachable.declaredNames_not_checkUnit (reachable : prologue.Reachable) :
    ∀ name ∈ prologue.declaredNames, startsWith checkUnitName name = false := by
  intro name listed
  simp only [declaredNames, List.mem_append, List.mem_singleton] at listed
  rcases listed with (inFixed | inRefs) | rfl
  · exact (fixedNames_unclaimed name inFixed).2 checkUnitName (by decide)
  · obtain ⟨ref, listed, rfl⟩ := List.mem_map.mp inRefs
    rw [reachable.functionRefs_wellFormed.named ref listed]
    exact FunctionRef.nameOf_not_startsWith checkUnitName (by decide) (by decide) _
  · exact prologue.backend.allocator_free.notGenerated checkUnitName (by decide)

theorem items_eq (prologue : Prologue) :
    prologue.items =
      IntType.all.map (fun type =>
        ⟨"typedef", type.stdintName, [prologue.toolchain.spelling type]⟩) ++
      Scalar.all.map (fun scalar =>
        ⟨"typedef", scalar.name, [Declaration.scalarTarget prologue.dialect scalar]⟩) ++
      prologue.functionRefs.list.map (fun ref =>
        ⟨"typedef", ref.name, ref.signature.ret.base.spelling ::
          prologue.dialect.parameterTypes ref.signature⟩) ++
      [⟨"extern", prologue.backend.allocator, ["void", "u32"]⟩] := by
  simp only [items, declarations, Layout.declarations_eq, Declaration.widths, Declaration.scalars,
    Declaration.pointers, List.map_append, List.map_map, List.map_cons, List.map_nil]
  rfl

theorem map_name_items (prologue : Prologue) :
    prologue.items.map Item.name = prologue.declaredNames := by
  simp only [items_eq, declaredNames, fixedNames, List.map_append, List.map_map]
  rfl

/-- Types that are known without a declaration: `void`, the toolchain's own spellings,
and the dialect's boolean. -/
def IsNative (prologue : Prologue) (type : String) : Prop :=
  type = "void" ∨ (∃ width, type = prologue.toolchain.spelling width) ∨
    type = prologue.dialect.boolSpelling

theorem isNative_or_scalar (prologue : Prologue) (base : BaseType) :
    prologue.IsNative base.spelling ∨ base.spelling ∈ Scalar.all.map Scalar.name := by
  cases base with
  | void => exact .inl (.inl rfl)
  | scalar type => exact .inr (List.mem_map_of_mem type.mem_all)

theorem items_declaredBeforeUse (prologue : Prologue) :
    DeclaredBeforeUse (fun _ => prologue.IsNative) prologue.items := by
  rw [items_eq]
  refine ((DeclaredBeforeUse.of_builtin ?_).append _ ?_).append _ ?_ |>.append _ ?_
  · intro item listed type mentioned
    obtain ⟨width, _, rfl⟩ := List.mem_map.mp listed
    exact .inr (.inl ⟨width, List.mem_singleton.mp mentioned⟩)
  · intro item listed type mentioned
    obtain ⟨scalar, _, rfl⟩ := List.mem_map.mp listed
    rw [List.mem_singleton.mp mentioned]
    cases scalar with
    | bool => exact .inl (.inr (.inr rfl))
    | int width =>
        refine .inr ?_
        rw [List.map_map]
        exact List.mem_map_of_mem width.mem_all
  · intro item listed type mentioned
    obtain ⟨ref, _, rfl⟩ := List.mem_map.mp listed
    have isBase : ∃ base : BaseType, type = base.spelling := by
      rcases List.mem_cons.mp mentioned with rfl | inParameters
      · exact ⟨_, rfl⟩
      · exact Dialect.mem_parameterTypes inParameters
    obtain ⟨base, rfl⟩ := isBase
    refine (prologue.isNative_or_scalar base).imp_right fun isScalar => ?_
    rw [List.map_append, List.mem_append, List.map_map, List.map_map]
    exact .inr isScalar
  · intro item listed type mentioned
    rw [List.mem_singleton.mp listed] at mentioned
    simp only [List.mem_cons, List.not_mem_nil, or_false] at mentioned
    rcases mentioned with rfl | rfl
    · exact .inl (.inl rfl)
    · refine .inr ?_
      rw [List.map_append, List.map_append, List.map_map, List.map_map]
      exact List.mem_append_left _ (List.mem_append_right _ (List.mem_map_of_mem
        (Scalar.mem_all (.int .u32))))

end Prologue

end PortableC
