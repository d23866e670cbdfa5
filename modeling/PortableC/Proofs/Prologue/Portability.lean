import PortableC.Proofs.Prologue.Lines
import PortableC.Proofs.Prologue.Names

namespace PortableC

/-! What another toolchain or another dialect changes about a prologue.

No check and no request depends on either.  So a prologue for another toolchain is the
same prologue with that one field replaced, whatever is registered before and after,
and likewise for the dialect.  What remains is to compare two texts line by line, which
have the same rows up to the field.
-/

namespace Backend

/-- The same allocator on another toolchain. -/
def on (backend : Backend) (toolchain : Toolchain) : Backend :=
  { backend with toolchain }

theorem make_on (first second : Toolchain) (allocator : Option String) :
    make second allocator = (make first allocator).map (·.on second) := by
  simp only [make]
  split <;> rfl

theorem externals_on (backend : Backend) (toolchain : Toolchain) :
    (backend.on toolchain).externals = backend.externals := by
  obtain ⟨current, allocator, accepted⟩ := backend
  cases current <;> cases toolchain <;> rfl

end Backend

namespace Target

theorem checkGuard_on (backend : Backend) (toolchain : Toolchain) (guard : Option String) :
    checkGuard (backend.on toolchain) guard = checkGuard backend guard := by
  cases guard with
  | none => rfl
  | some name =>
      have same : isGuardName (backend.on toolchain) name = isGuardName backend name := by
        rw [Bool.eq_iff_iff, isGuardName_iff, isGuardName_iff]
        rfl
      simp only [checkGuard, same]

end Target

namespace Prologue

variable (prologue : Prologue)

/-- The same prologue for another toolchain. -/
def on (toolchain : Toolchain) : Prologue :=
  { prologue with backend := prologue.backend.on toolchain }

/-- The same prologue in another dialect. -/
def inDialect (dialect : Dialect) : Prologue :=
  { prologue with layout := { prologue.layout with dialect } }

def registerAll (signatures : List Signature) : Prologue :=
  signatures.foldl (fun prologue signature => (prologue.register signature).1) prologue

theorem registerAll_eq (signatures : List Signature) :
    prologue.registerAll signatures =
      { prologue with functionRefs := prologue.functionRefs.registerAll signatures } := by
  induction signatures generalizing prologue with
  | nil => rfl
  | cons signature signatures induction =>
      exact (induction (prologue.register signature).1).trans rfl

theorem registerAll_on (toolchain : Toolchain) (signatures : List Signature) :
    (prologue.on toolchain).registerAll signatures =
      (prologue.registerAll signatures).on toolchain := by
  rw [registerAll_eq, registerAll_eq]
  rfl

theorem registerAll_inDialect (dialect : Dialect) (signatures : List Signature) :
    (prologue.inDialect dialect).registerAll signatures =
      (prologue.registerAll signatures).inDialect dialect := by
  rw [registerAll_eq, registerAll_eq]
  rfl

variable {prologue}

theorem Reachable.registerAll (reachable : prologue.Reachable) (signatures : List Signature) :
    (prologue.registerAll signatures).Reachable := by
  induction signatures generalizing prologue with
  | nil => exact reachable
  | cons signature signatures induction => exact induction (reachable.registered signature)

end Prologue

namespace Target

variable {target : Target} {later : List Signature} {prologue : Prologue}

/-- The prologue after everything that is registered once it was made. -/
def prologueAfter (target : Target) (later : List Signature) : Except Error Prologue :=
  target.prologue.map (·.registerAll later)

theorem prologue_on {compiler : Compiler} {first second : Toolchain}
    (firstResolved : target.compiler.toolchain = .ok first)
    (secondResolved : compiler.toolchain = .ok second) :
    { target with compiler }.prologue = target.prologue.map (·.on second) := by
  simp only [Target.prologue, firstResolved, secondResolved, bind, Except.bind]
  -- Both chains now run on one backend, so each check has one outcome for the two of them.
  rw [Backend.make_on first second]
  cases Backend.make first target.allocator with
  | error error => rfl
  | ok backend =>
      simp only [Except.map, checkGuard_on]
      cases checkGuard backend target.guard <;> rfl

theorem prologue_inDialect (target : Target) (dialect : Dialect) :
    { target with dialect }.prologue = target.prologue.map (·.inDialect dialect) := by
  simp only [Target.prologue]
  cases target.compiler.toolchain with
  | error error => rfl
  | ok toolchain =>
      simp only [bind, Except.bind]
      cases Backend.make toolchain target.allocator with
      | error error => rfl
      | ok backend =>
          simp only
          cases checkGuard backend target.guard <;> rfl

theorem prologueAfter_on {compiler : Compiler} {first second : Toolchain}
    (firstResolved : target.compiler.toolchain = .ok first)
    (secondResolved : compiler.toolchain = .ok second) (later : List Signature) :
    { target with compiler }.prologueAfter later =
      (target.prologueAfter later).map (·.on second) := by
  rw [prologueAfter, prologueAfter, prologue_on firstResolved secondResolved]
  cases target.prologue with
  | error error => rfl
  | ok prologue => exact congrArg Except.ok (prologue.registerAll_on second later)

theorem prologueAfter_inDialect (target : Target) (dialect : Dialect) (later : List Signature) :
    { target with dialect }.prologueAfter later =
      (target.prologueAfter later).map (·.inDialect dialect) := by
  rw [prologueAfter, prologueAfter, prologue_inDialect]
  cases target.prologue with
  | error error => rfl
  | ok prologue => exact congrArg Except.ok (prologue.registerAll_inDialect dialect later)

theorem prologueAfter_made (made : target.prologueAfter later = .ok prologue) :
    prologue.Reachable ∧ target.compiler.toolchain = .ok prologue.toolchain ∧
      prologue.dialect = target.dialect := by
  rw [prologueAfter] at made
  cases found : target.prologue with
  | error error =>
      rw [found] at made
      cases made
  | ok early =>
      rw [found] at made
      obtain ⟨toolchain, resolved, backend, _, _, layout⟩ := prologue_eq_ok_iff.mp found
      obtain rfl : early.registerAll later = prologue := Except.ok.inj made
      refine ⟨(Prologue.Reachable.made found).registerAll later, ?_, ?_⟩
      · rw [resolved, ← (Backend.make_eq_ok_iff.mp backend).1, Prologue.registerAll_eq]
        rfl
      · rw [Prologue.registerAll_eq, Prologue.dialect, layout]
        rfl

end Target

namespace Prologue.Reachable

variable {prologue : Prologue}

theorem on (reachable : prologue.Reachable) (toolchain : Toolchain) :
    (prologue.on toolchain).Reachable := by
  induction reachable with
  | @made target prologue accepted =>
      obtain ⟨compiler, resolved⟩ := Compiler.exists_toolchain toolchain
      obtain ⟨_, current, _⟩ := Target.prologue_eq_ok_iff.mp accepted
      have others : { target with compiler }.prologue = .ok (prologue.on toolchain) := by
        rw [Target.prologue_on current resolved, accepted]
        rfl
      exact made others
  | registered earlier signature induction => exact induction.registered signature

theorem inDialect (reachable : prologue.Reachable) (dialect : Dialect) :
    (prologue.inDialect dialect).Reachable := by
  induction reachable with
  | @made target prologue accepted =>
      have others : { target with dialect }.prologue = .ok (prologue.inDialect dialect) := by
        rw [Target.prologue_inDialect, accepted]
        rfl
      exact made others
  | registered earlier signature induction => exact induction.registered signature

end Prologue.Reachable

namespace Prologue

variable {prologue : Prologue}

/-- How a prologue for one toolchain compares to the one for another. -/
structure AlikeOn (first second : Toolchain) (left right : Prologue) : Prop where
  toolchains : left.toolchain = first ∧ right.toolchain = second
  layout : left.layout = right.layout
  functionRefs : left.functionRefs = right.functionRefs
  externals : left.backend.externals = right.backend.externals
  lines : ∃ opening rest,
    Text.lines left.text = left.bannerTexts ++ opening ++ first.widthLines ++ rest ∧
    Text.lines right.text = right.bannerTexts ++ opening ++ second.widthLines ++ rest

/-- How a prologue in one dialect compares to the one in another. -/
structure AlikeIn (first second : Dialect) (left right : Prologue) : Prop where
  dialects : left.dialect = first ∧ right.dialect = second
  toolchain : left.toolchain = right.toolchain
  layout : { left.layout with dialect := second } = right.layout
  functionRefs : left.functionRefs = right.functionRefs
  names : ∃ leftItems rightItems,
    Source.declarations? left.text.toList = some leftItems ∧
    Source.declarations? right.text.toList = some rightItems ∧
    leftItems.map (·.name) = rightItems.map (·.name)
  lines : ∃ opening aliases allocator closing,
    Text.lines left.text =
      left.bannerTexts ++ opening ++ [first.boolLine] ++ aliases ++
        left.functionRefs.list.map first.pointerLine ++
        ["", first.unmangledStorage ++ allocator] ++ closing ∧
    Text.lines right.text =
      right.bannerTexts ++ opening ++ [second.boolLine] ++ aliases ++
        left.functionRefs.list.map second.pointerLine ++
        ["", second.unmangledStorage ++ allocator] ++ closing
  pointerLines : ∀ ref ∈ left.functionRefs.list,
    (ref.signature.variadic = true → ref.signature.params ≠ []) →
    first.pointerLine ref = second.pointerLine ref

theorem Reachable.alikeOn (reachable : prologue.Reachable) (toolchain : Toolchain) :
    AlikeOn prologue.toolchain toolchain prologue (prologue.on toolchain) where
  toolchains := ⟨rfl, rfl⟩
  layout := rfl
  functionRefs := rfl
  externals := (prologue.backend.externals_on toolchain).symm
  lines := by
    -- What is named here mentions no toolchain, so the other text has the same lines.
    refine ⟨prologue.layout.openingTexts,
      [""] ++ [prologue.dialect.boolLine] ++ prologue.functionRefs.aliasTexts ++
        prologue.functionRefs.list.map prologue.dialect.pointerLine ++
        ["", prologue.dialect.unmangledStorage ++ prologue.backend.allocatorText] ++
        prologue.layout.closingTexts ++ [""], ?_, ?_⟩
    · rw [reachable.lines_eq]
      simp only [List.append_assoc]
    · rw [(reachable.on toolchain).lines_eq]
      simp only [List.append_assoc]
      rfl

theorem Reachable.alikeIn (reachable : prologue.Reachable) (dialect : Dialect) :
    AlikeIn prologue.dialect dialect prologue (prologue.inDialect dialect) where
  dialects := ⟨rfl, rfl⟩
  toolchain := rfl
  layout := rfl
  functionRefs := rfl
  names := ⟨prologue.items, (prologue.inDialect dialect).items, reachable.declares_text.whole,
    (reachable.inDialect dialect).declares_text.whole, by
      rw [map_name_items, map_name_items]
      rfl⟩
  lines := by
    refine ⟨prologue.layout.openingTexts ++ prologue.toolchain.widthLines ++ [""],
      prologue.functionRefs.aliasTexts, prologue.backend.allocatorText,
      prologue.layout.closingTexts ++ [""], ?_, ?_⟩
    · rw [reachable.lines_eq]
      simp only [List.append_assoc]
    · rw [(reachable.inDialect dialect).lines_eq]
      simp only [List.append_assoc]
      rfl
  pointerLines := by
    intro ref _ filled
    rw [Dialect.pointerLine, Dialect.pointerLine, Dialect.parameterText_eq filled,
      Dialect.parameterText_eq filled]

end Prologue

namespace Target

/-- Made for another toolchain, a target fails with the same error, or gives the same
references and externals, also after more signatures, and a text that has other lines
for the standard types and another banner and is the same line for line elsewhere.  In
another dialect it fails with the same error, or gives the same references and declares
the same names, and the text differs in its banner, in the line of `i1`, in front of the
allocator, and where a pointer type takes `...` and no parameter. -/
theorem alike_across_toolchains_and_dialects (target : Target) (later : List Signature) :
    (∀ firstCompiler secondCompiler first second,
      firstCompiler.toolchain = .ok first → secondCompiler.toolchain = .ok second →
      Agree (Prologue.AlikeOn first second)
        ({ target with compiler := firstCompiler }.prologueAfter later)
        ({ target with compiler := secondCompiler }.prologueAfter later)) ∧
    ∀ first second,
      Agree (Prologue.AlikeIn first second)
        ({ target with dialect := first }.prologueAfter later)
        ({ target with dialect := second }.prologueAfter later) := by
  constructor
  · intro firstCompiler secondCompiler first second firstResolved secondResolved
    let target : Target := { target with compiler := firstCompiler }
    have changed : { target with compiler := secondCompiler }.prologueAfter later =
        (target.prologueAfter later).map (·.on second) :=
      prologueAfter_on firstResolved secondResolved later
    rw [changed]
    apply Agree.map
    intro prologue made
    obtain ⟨reachable, resolved, _⟩ := prologueAfter_made made
    obtain rfl : first = prologue.toolchain := Except.ok.inj (firstResolved.symm.trans resolved)
    exact reachable.alikeOn second
  · intro first second
    let target : Target := { target with dialect := first }
    have changed : { target with dialect := second }.prologueAfter later =
        (target.prologueAfter later).map (·.inDialect second) :=
      prologueAfter_inDialect target second later
    rw [changed]
    apply Agree.map
    intro prologue made
    obtain ⟨reachable, _, dialect⟩ := prologueAfter_made made
    obtain rfl : prologue.dialect = first := dialect
    exact reachable.alikeIn second

/-- One target for both toolchains, and a guard that only one of them has a symbol for. -/
theorem alike_across_toolchains_and_dialects_msvc_gnu :
    let gathering : Signature := { ret := .void, variadic := true }
    let target : Target := { compiler := .unknown, signatures := [gathering] }
    let refused : Target := { target with guard := some "memset" }
    let later : List Signature := [{ ret := .void, params := [.void] }]
    (∃ left right,
      { target with compiler := .msvc }.prologueAfter later = .ok left ∧
      { target with compiler := .gnu 4 }.prologueAfter later = .ok right ∧
      Prologue.AlikeOn .msvc .gnu left right) ∧
    { refused with compiler := .gnu 4 }.prologueAfter later =
      .error (.notAnIdentifier "memset") := by
  intro gathering target refused later
  have resolved : (Compiler.gnu 4).toolchain = .ok .gnu := by decide
  constructor
  · have accepted : isAllocatorName "calloc" = true := by decide
    have made : { target with compiler := .msvc }.prologue =
        .ok ⟨⟨.msvc, "calloc", accepted⟩, target.functionRefs, target.layout⟩ :=
      prologue_eq_ok_iff.mpr ⟨.msvc, rfl, dif_pos accepted, rfl, rfl, rfl⟩
    have agree := (alike_across_toolchains_and_dialects target later).1
      .msvc (.gnu 4) .msvc .gnu rfl resolved
    rw [prologueAfter, made] at agree
    generalize others : { target with compiler := .gnu 4 }.prologueAfter later = right at agree
    cases agree with
    | made alike => exact ⟨_, _, by rw [prologueAfter, made]; rfl, rfl, alike⟩
  · have failed : { refused with compiler := .msvc }.prologueAfter later =
        .error (.notAnIdentifier "memset") := by
      decide +revert
    have agree := (alike_across_toolchains_and_dialects refused later).1
      .msvc (.gnu 4) .msvc .gnu rfl resolved
    rw [failed] at agree
    generalize { refused with compiler := .gnu 4 }.prologueAfter later = right at agree ⊢
    cases agree with
    | failed _ => rfl

end Target

end PortableC
