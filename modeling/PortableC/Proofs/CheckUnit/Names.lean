import PortableC.Proofs.CheckUnit.Items
import PortableC.Proofs.Prologue.Names

namespace PortableC

/-! Which names a check unit declares beside those of its prologue. -/

open Source (DeclaredBeforeUse Item declarations?)

namespace CheckUnit

variable {prologue : Prologue}

theorem sizeItem_name (scalar : Scalar) :
    (sizeItem scalar).name = "cprelude_probe_size_" ++ scalar.name := by
  have beginning : checkUnitName ++ "_size_" = "cprelude_probe_size_" := by decide
  rw [sizeItem, beginning]

/-- What stands behind the common beginning of the names. -/
def endings (handle : Bool) : List String :=
  Scalar.all.map (fun scalar => "_size_" ++ scalar.name) ++
    (if handle then ["_callee", "_handle"] else []) ++ [""]

theorem names_eq_endings (dialect : Dialect) (handle : Bool) :
    (items dialect handle).map Item.name = (endings handle).map (checkUnitName ++ ·) := by
  cases handle <;> rfl

theorem map_name_items (dialect : Dialect) (handle : Bool) :
    (items dialect handle).map Item.name =
      Scalar.all.map (fun scalar => "cprelude_probe_size_" ++ scalar.name) ++
      (if handle then ["cprelude_probe_callee", "cprelude_probe_handle"] else []) ++
      ["cprelude_probe"] := by
  simp only [items, List.map_append, List.map_map, Function.comp_def, sizeItem_name]
  cases handle <;> rfl

theorem names_nodup (dialect : Dialect) (handle : Bool) :
    ((items dialect handle).map Item.name).Nodup := by
  have distinct : (endings handle).Nodup := by cases handle <;> decide
  rw [names_eq_endings]
  exact distinct.map fun _ _ same => (String.append_right_inj _).mp same

theorem names_claimed (dialect : Dialect) (handle : Bool) :
    ∀ name ∈ (items dialect handle).map Item.name,
      startsWith checkUnitName name = true := by
  rw [names_eq_endings]
  intro name listed
  obtain ⟨ending, _, rfl⟩ := List.mem_map.mp listed
  exact startsWith_append checkUnitName ending

/-- Types that are known in one declaration of a check unit: those of the prologue, and
`char` where sizes are checked. -/
def IsBuiltin (prologue : Prologue) (item : Item) (type : String) : Prop :=
  prologue.IsNative type ∨ type = "char" ∧ startsWith "cprelude_probe_size_" item.name = true

theorem names_nodup_behind (reachable : prologue.Reachable) :
    ((prologue.items ++ items prologue.dialect prologue.functionRefs.handle?.isSome).map
      Item.name).Nodup := by
  rw [List.map_append, Prologue.map_name_items]
  refine List.nodup_append.mpr ⟨reachable.declaredNames_nodup, names_nodup _ _, ?_⟩
  rintro name declared _ checks rfl
  have claimed := names_claimed _ _ name checks
  rw [reachable.declaredNames_not_checkUnit name declared] at claimed
  cases claimed

theorem handleName_mem (reachable : prologue.Reachable)
    (isSome : prologue.functionRefs.handle?.isSome = true) :
    handleName ∈ prologue.declaredNames := by
  obtain ⟨ref, found⟩ := Option.isSome_iff_exists.mp isSome
  have listed := List.mem_of_find?_eq_some found
  rw [← reachable.functionRefs_wellFormed.handle?_name found]
  simp [Prologue.declaredNames, List.mem_map_of_mem listed]

theorem mentions_sizeItem {scalar : Scalar} {type : String}
    (mentioned : type ∈ (sizeItem scalar).mentions) :
    IsBuiltin prologue (sizeItem scalar) type ∨ type ∈ Scalar.all.map Scalar.name := by
  simp only [sizeItem, List.mem_cons, List.not_mem_nil, or_false] at mentioned
  rcases mentioned with rfl | rfl
  · refine .inl (.inr ⟨rfl, ?_⟩)
    rw [sizeItem_name]
    exact startsWith_append _ _
  · exact .inr (List.mem_map_of_mem scalar.mem_all)

theorem mentions_handleItem {dialect : Dialect} {type : String}
    (mentioned : type ∈ (handleItem dialect).mentions) :
    type = handleName ∨ type = calleeItem.name := by
  cases dialect <;>
    simpa [handleItem, castTypes, calleeItem] using mentioned

theorem scalars_declared (prologue : Prologue) :
    ∀ name ∈ Scalar.all.map Scalar.name, name ∈ prologue.items.map Item.name := by
  intro name listed
  rw [Prologue.map_name_items]
  exact List.mem_append_left _ (List.mem_append_left _ (List.mem_append_right _ listed))

theorem declaredBeforeUse_sizes (prologue : Prologue) :
    DeclaredBeforeUse (IsBuiltin prologue) (prologue.items ++ Scalar.all.map sizeItem) := by
  refine (prologue.items_declaredBeforeUse.mono fun _ _ native => .inl native).append _ ?_
  intro item listed type mentioned
  obtain ⟨scalar, _, rfl⟩ := List.mem_map.mp listed
  exact (mentions_sizeItem mentioned).imp_right (scalars_declared prologue type)

theorem declaredBeforeUse_handle (reachable : prologue.Reachable)
    (isSome : prologue.functionRefs.handle?.isSome = true) :
    DeclaredBeforeUse (IsBuiltin prologue)
      (prologue.items ++ Scalar.all.map sizeItem ++ [calleeItem] ++
        [handleItem prologue.dialect]) := by
  have calleeTypes : ∀ type ∈ calleeItem.mentions, type ∈ Scalar.all.map Scalar.name := by
    decide
  refine ((declaredBeforeUse_sizes prologue).append [calleeItem] ?_).append
    [handleItem prologue.dialect] ?_
  · intro item listed type mentioned
    rw [List.mem_singleton.mp listed] at mentioned
    rw [List.map_append]
    exact .inr (List.mem_append_left _
      (scalars_declared prologue type (calleeTypes type mentioned)))
  · intro item listed type mentioned
    rw [List.mem_singleton.mp listed] at mentioned
    rw [List.map_append, List.map_append, Prologue.map_name_items]
    rcases mentions_handleItem mentioned with rfl | rfl
    · exact .inr (List.mem_append_left _ (List.mem_append_left _
        (handleName_mem reachable isSome)))
    · exact .inr (List.mem_append_right _ List.mem_cons_self)

theorem declaredBeforeUse_behind (reachable : prologue.Reachable) :
    DeclaredBeforeUse (IsBuiltin prologue)
      (prologue.items ++ items prologue.dialect prologue.functionRefs.handle?.isSome) := by
  have callerTypes : ∀ type ∈ callerItem.mentions,
      type = "void" ∨ type ∈ Scalar.all.map Scalar.name := by
    decide
  have handle : DeclaredBeforeUse (IsBuiltin prologue)
      (prologue.items ++ Scalar.all.map sizeItem ++
        if prologue.functionRefs.handle?.isSome then [calleeItem, handleItem prologue.dialect]
        else []) := by
    split
    · rename_i isSome
      simpa using declaredBeforeUse_handle reachable isSome
    · simpa using declaredBeforeUse_sizes prologue
  have caller := handle.append [callerItem] fun item listed type mentioned => by
    rw [List.mem_singleton.mp listed] at mentioned
    rw [List.map_append, List.map_append]
    rcases callerTypes type mentioned with rfl | isScalar
    · exact .inl (.inl (.inl rfl))
    · exact .inr (List.mem_append_left _ (List.mem_append_left _
        (scalars_declared prologue type isScalar)))
  simpa [items] using caller

end CheckUnit

namespace Prologue

/-- However a prologue came about, each of its lines that is a declaration can be read,
and they are those of the integer types under their standard names, of the scalar
types, of the pointer types in the order of registration, and of the allocator.  No
name is declared twice, and none is used above its declaration.  The check unit is
written for every prologue, and what it declares in addition keeps all that. -/
theorem declared_names_distinct_and_known {prologue : Prologue} (reachable : prologue.Reachable) :
    ∃ items unit checks,
      declarations? prologue.text.toList = some items ∧
      items.map (fun item => (item.storage, item.name)) =
        IntType.all.map (fun type => ("typedef", type.stdintName)) ++
        Scalar.all.map (fun scalar => ("typedef", scalar.name)) ++
        prologue.functionRefs.list.map (fun ref => ("typedef", ref.name)) ++
        [("extern", prologue.backend.allocator)] ∧
      (items.map Item.name).Nodup ∧
      DeclaredBeforeUse (fun _ => prologue.IsNative) items ∧
      prologue.checkUnit = .ok unit ∧
      declarations? unit.toList = some (items ++ checks) ∧
      checks.map Item.name =
        Scalar.all.map (fun scalar => "cprelude_probe_size_" ++ scalar.name) ++
        (if prologue.functionRefs.handle?.isSome then
          ["cprelude_probe_callee", "cprelude_probe_handle"] else []) ++
        ["cprelude_probe"] ∧
      ((items ++ checks).map Item.name).Nodup ∧
      DeclaredBeforeUse (CheckUnit.IsBuiltin prologue) (items ++ checks) := by
  obtain ⟨unit, written, declares⟩ := reachable.declares_checkUnit
  refine ⟨prologue.items, unit,
    CheckUnit.items prologue.dialect prologue.functionRefs.handle?.isSome,
    reachable.declares_text.whole, ?_, ?_, prologue.items_declaredBeforeUse, written,
    declares.whole, CheckUnit.map_name_items _ _, CheckUnit.names_nodup_behind reachable,
    CheckUnit.declaredBeforeUse_behind reachable⟩
  · simp only [items_eq, List.map_append, List.map_map]
    rfl
  · rw [map_name_items]
    exact reachable.declaredNames_nodup

/-- A guarded C prologue without a handle, to which a signature with a `void` parameter
is added late. -/
theorem declared_names_distinct_and_known_late :
    let target : Target :=
      { compiler := .gnu 4, dialect := .c, allocator := some "node_alloc",
        signatures := [{ ret := .voidPointer, variadic := true }], handle := false,
        guard := some "OUT_H" }
    ∃ made items, target.prologue = .ok made ∧
      let prologue := (made.register { ret := .void, params := [.void] }).1
      declarations? prologue.text.toList = some items ∧
      items.map Item.name =
        ["int8_t", "int16_t", "int32_t", "int64_t", "uint8_t", "uint16_t", "uint32_t", "uint64_t",
          "i1", "i8", "i16", "i32", "i64", "u8", "u16", "u32", "u64", "fn_voidp_va",
          "fn_void_void", "node_alloc"] ∧
      DeclaredBeforeUse (fun _ => prologue.IsNative) items := by
  intro target
  have accepted : isAllocatorName "node_alloc" = true := by decide
  have checked : Target.checkGuard ⟨.gnu, "node_alloc", accepted⟩ (some "OUT_H") = .ok () := by
    decide +revert
  have made : target.prologue =
      .ok ⟨⟨.gnu, "node_alloc", accepted⟩, target.functionRefs, target.layout⟩ :=
    Target.prologue_eq_ok_iff.mpr ⟨.gnu, rfl, dif_pos accepted, checked, rfl, rfl⟩
  obtain ⟨items, _, _, read, names, _, known, _⟩ := declared_names_distinct_and_known
    ((Reachable.made made).registered { ret := .void, params := [.void] })
  refine ⟨_, items, made, read, ?_, known⟩
  have pointers : (target.functionRefs.register { ret := .void, params := [.void] }).1.list.map
      (fun ref => ref.name) = ["fn_voidp_va", "fn_void_void"] := by
    decide
  have listed := congrArg (List.map Prod.snd) names
  simp only [List.map_append, List.map_map] at listed
  exact listed.trans (congrArg (fun pointers => fixedNames ++ pointers ++ ["node_alloc"]) pointers)

end Prologue

end PortableC
