namespace PortableC

/-! Chains of checks. -/

/-- A chain succeeds when its first check does, and the others on what that gives. -/
theorem bind_eq_ok_iff {failure α β : Type} {first : Except failure α}
    {others : α → Except failure β} {result : β} :
    first >>= others = .ok result ↔ ∃ value, first = .ok value ∧ others value = .ok result := by
  cases first <;> simp [bind, Except.bind]

/-- It fails when its first check does, or when the others do on what that gives. -/
theorem bind_eq_error_iff {failure α β : Type} {first : Except failure α}
    {others : α → Except failure β} {error : failure} :
    first >>= others = .error error ↔
      first = .error error ∨ ∃ value, first = .ok value ∧ others value = .error error := by
  cases first <;> simp [bind, Except.bind]

/-- A last step that only changes what has been made cannot fail. -/
theorem bind_ok_eq_error_iff {failure α β : Type} {chain : Except failure α} {change : α → β}
    {error : failure} :
    (chain >>= fun value => .ok (change value)) = .error error ↔ chain = .error error := by
  cases chain <;> simp [bind, Except.bind]

theorem exists_ok_iff {failure α : Type} {chain : Except failure α} :
    (∃ value, chain = .ok value) ↔ ∀ error, chain ≠ .error error := by
  cases chain <;> simp

theorem mapM_eq_some {α β : Type} {read : α → Option β} {result : α → β} {items : List α}
    (each : ∀ item ∈ items, read item = some (result item)) :
    items.mapM read = some (items.map result) := by
  induction items with
  | nil => rfl
  | cons item items induction =>
      rw [List.mapM_cons, each item List.mem_cons_self,
        induction fun item member => each item (List.mem_cons_of_mem _ member)]
      rfl

/-- A list is read item by item, and the results are in order. -/
theorem mapM_eq_ok_iff {failure α β : Type} {read : α → Except failure β} {items : List α}
    {results : List β} : items.mapM read = .ok results ↔ items.map read = results.map .ok := by
  induction items generalizing results with
  | nil => cases results <;> simp [pure, Except.pure]
  | cons item items induction =>
      rw [List.mapM_cons, bind_eq_ok_iff, List.map_cons]
      constructor
      · rintro ⟨result, first, others⟩
        obtain ⟨rest, readRest, same⟩ := bind_eq_ok_iff.mp others
        obtain rfl := Except.ok.inj same
        rw [List.map_cons, first, induction.mp readRest]
      · intro same
        cases results with
        | nil => cases same
        | cons result results =>
            obtain ⟨first, rest⟩ := List.cons.inj same
            exact ⟨result, first, bind_eq_ok_iff.mpr ⟨results, induction.mpr rest, rfl⟩⟩

/-- The error of the first check in a list that fails. -/
inductive FirstFailure {α failure : Type} (fails : α → failure → Prop) : List α → failure → Prop
  | here {check : α} {checks : List α} {error : failure} (failed : fails check error) :
      FirstFailure fails (check :: checks) error
  | later {check : α} {checks : List α} {error : failure} (passed : ∀ other, ¬ fails check other)
      (first : FirstFailure fails checks error) : FirstFailure fails (check :: checks) error

namespace FirstFailure

variable {α β γ failure : Type} {fails : α → failure → Prop} {check : α} {checks : List α}
  {error : failure}

/-- No list fails without one of its checks. -/
theorem not_iff :
    (∀ error, ¬ FirstFailure fails checks error) ↔
      ∀ check ∈ checks, ∀ error, ¬ fails check error := by
  induction checks with
  | nil => exact iff_of_true nofun nofun
  | cons check checks induction =>
      rw [List.forall_mem_cons, ← induction]
      constructor
      · intro passed
        have here : ∀ error, ¬ fails check error := fun error failed => passed error (.here failed)
        exact ⟨here, fun error first => passed error (.later here first)⟩
      · rintro ⟨here, others⟩ error (failed | ⟨_, first⟩)
        · exact here error failed
        · exact others error first

/-- A chain of checks fails like the list of them, as each step does. -/
theorem bind_iff {first : Except failure β} {others : β → Except failure γ}
    (step : ∀ error, first = .error error ↔ fails check error)
    (rest : ∀ value, first = .ok value →
      (others value = .error error ↔ FirstFailure fails checks error)) :
    first >>= others = .error error ↔ FirstFailure fails (check :: checks) error := by
  rw [bind_eq_error_iff]
  constructor
  · rintro (failed | ⟨value, passed, failed⟩)
    · exact .here ((step error).mp failed)
    · refine .later (fun other fails => ?_) ((rest value passed).mp failed)
      cases passed.symm.trans ((step other).mpr fails)
  · intro found
    cases found with
    | here failed => exact .inl ((step error).mpr failed)
    | later passed found =>
        cases made : first with
        | error other => exact absurd ((step other).mp made) (passed other)
        | ok value => exact .inr ⟨value, rfl, (rest value made).mpr found⟩

theorem mapM_bind_iff {δ : Type} {read : δ → Except failure β} {items : List δ} {checkOf : δ → α}
    {others : List β → Except failure γ}
    (step : ∀ item error, read item = .error error ↔ fails (checkOf item) error)
    (rest : ∀ results, items.mapM read = .ok results →
      (others results = .error error ↔ FirstFailure fails checks error)) :
    items.mapM read >>= others = .error error ↔
      FirstFailure fails (items.map checkOf ++ checks) error := by
  induction items generalizing others with
  | nil => exact rest [] rfl
  | cons item items induction =>
      rw [List.mapM_cons, bind_assoc, List.map_cons, List.cons_append]
      refine bind_iff (step item) fun result made => ?_
      rw [bind_assoc]
      refine induction fun results madeRest => rest (result :: results) ?_
      rw [List.mapM_cons, made, madeRest]
      rfl

/-- A list is read until an item cannot be. -/
theorem mapM_iff {read : α → Except failure β}
    (step : ∀ item error, read item = .error error ↔ fails item error) :
    checks.mapM read = .error error ↔ FirstFailure fails checks error := by
  induction checks with
  | nil => exact iff_of_false nofun nofun
  | cons check checks induction =>
      rw [List.mapM_cons]
      refine bind_iff (step check) fun result _ => ?_
      rw [← induction]
      exact bind_ok_eq_error_iff

/-- The state that a step comes upon makes no difference to what the step finds wrong. -/
theorem foldlM_iff {step : β → α → Except failure β}
    (each : ∀ state item error, step state item = .error error ↔ fails item error) (state : β) :
    checks.foldlM step state = .error error ↔ FirstFailure fails checks error := by
  induction checks generalizing state with
  | nil => exact iff_of_false nofun nofun
  | cons check checks induction =>
      rw [List.foldlM_cons]
      exact bind_iff (each state check) fun next _ => induction next

end FirstFailure

/-- Two chains fail with the same error, or succeed with results that are related. -/
inductive Agree {failure α β : Type} (related : α → β → Prop) :
    Except failure α → Except failure β → Prop
  | failed (error : failure) : Agree related (.error error) (.error error)
  | made {left : α} {right : β} (alike : related left right) :
      Agree related (.ok left) (.ok right)

theorem Agree.map {failure α β : Type} {related : α → β → Prop} {chain : Except failure α}
    {change : α → β} (alike : ∀ value, chain = .ok value → related value (change value)) :
    Agree related chain (chain.map change) := by
  cases chain with
  | error error => exact .failed error
  | ok value => exact .made (alike value rfl)

end PortableC
