import PortableC.Proofs.FunctionRef.History
import PortableC.Proofs.Prologue.Names

namespace PortableC

/-! A text belongs to one prologue only.

What a text declares is enough to tell the toolchain, the dialect, the references and
the allocator.  The names of the pointer types stand for the signatures, since their
parameter lists do not: `(void)` may be a parameter of type `void` or none at all.
Banner and guard are told by the lines above the first declaration.
-/

open Source (Token Item)

namespace Toolchain

theorem spelling_injective (type : IntType) : Function.Injective (spelling · type) := by
  intro first second same
  cases first <;> cases second
  · rfl
  · cases type <;> exact absurd same (by decide)
  · cases type <;> exact absurd same (by decide)
  · rfl

end Toolchain

theorem Dialect.boolSpelling_injective : Function.Injective Dialect.boolSpelling := by
  intro first second same
  cases first <;> cases second <;> first | rfl | exact absurd same (by decide)

/-- The names of references say what each of them is. -/
theorem FunctionRefs.WellFormed.list_eq_of_names {first second : FunctionRefs}
    (firstWellFormed : first.WellFormed) (secondWellFormed : second.WellFormed)
    (same : first.list.map (·.name) = second.list.map (·.name)) : first.list = second.list := by
  rw [firstWellFormed.names, secondWellFormed.names] at same
  have purposes := (List.map_inj_right fun _ _ names => FunctionRef.nameOf_injective names).mp same
  rw [firstWellFormed.list_eq, secondWellFormed.list_eq, purposes]

namespace Source

/-- A text with a banner has nothing to read on its first line. -/
def beginsWithBanner (lines : List (List Token)) : Bool :=
  lines.head? == some []

/-- The name that the first line with something to read tests. -/
def testedName? : List (List Token) → Option String
  | [] :: [.directive _, .word name] :: _ => some name
  | [.directive _, .word name] :: _ => some name
  | _ => none

end Source

namespace Prologue

variable {first second prologue : Prologue}

theorem rows_begin (prologue : Prologue) :
    ∃ rest, prologue.rows =
      prologue.layout.bannerRows prologue.toolchain ++ prologue.layout.openingRows ++
        .declaration (.typedef (prologue.toolchain.spelling .i8) "int8_t") :: rest := by
  have body : ∃ rest, prologue.layout.bodyRows prologue.backend prologue.functionRefs =
      .declaration (.typedef (prologue.toolchain.spelling .i8) "int8_t") :: rest := by
    rw [Layout.bodyRows_eq]
    exact ⟨_, rfl⟩
  obtain ⟨rest, body⟩ := body
  refine ⟨rest ++ prologue.layout.closingRows, ?_⟩
  rw [rows, Layout.rows, body, List.append_assoc, List.cons_append]
  rfl

theorem Reachable.beginsWithBanner_lines (reachable : prologue.Reachable) :
    Source.beginsWithBanner (Source.lines prologue.text.toList) = prologue.layout.banner := by
  obtain ⟨rest, rows⟩ := prologue.rows_begin
  rw [reachable.lines_text, rows]
  cases banner : prologue.layout.banner with
  | true => simp [Source.beginsWithBanner, Layout.bannerRows, banner, Row.tokens]
  | false =>
      cases guarded : prologue.layout.guard with
      | none =>
          simp [Source.beginsWithBanner, Layout.bannerRows, Layout.openingRows, banner, guarded,
            Row.tokens, Declaration.tokens]
      | some guard =>
          simp [Source.beginsWithBanner, Layout.bannerRows, Layout.openingRows, banner, guarded,
            Row.tokens]

theorem Reachable.testedName?_lines (reachable : prologue.Reachable) :
    Source.testedName? (Source.lines prologue.text.toList) = prologue.layout.guard := by
  obtain ⟨rest, rows⟩ := prologue.rows_begin
  rw [reachable.lines_text, rows]
  cases guarded : prologue.layout.guard with
  | none =>
      cases banner : prologue.layout.banner <;>
        simp [Source.testedName?, Layout.bannerRows, Layout.openingRows, banner, guarded,
          Row.tokens, Declaration.tokens]
  | some guard =>
      cases banner : prologue.layout.banner <;>
        simp [Source.testedName?, Layout.bannerRows, Layout.openingRows, banner, guarded,
          Row.tokens]

/-- Item by item: the standard types tell the toolchain, `i1` the dialect, the last line
the allocator. -/
theorem items_injective (same : first.items = second.items) :
    first.toolchain = second.toolchain ∧ first.dialect = second.dialect ∧
      first.functionRefs.list.map (·.name) = second.functionRefs.list.map (·.name) ∧
      first.backend.allocator = second.backend.allocator := by
  rw [items_eq, items_eq] at same
  obtain ⟨front, last⟩ := List.append_inj' same rfl
  obtain ⟨fixed, pointers⟩ := List.append_inj front rfl
  obtain ⟨widths, scalars⟩ := List.append_inj fixed rfl
  have width := List.map_inj_left.mp widths .i8 (IntType.mem_all .i8)
  have boolean := List.map_inj_left.mp scalars .bool (Scalar.mem_all .bool)
  have names := congrArg (List.map Item.name) pointers
  simp only [Item.mk.injEq, List.cons.injEq, and_true, true_and] at width boolean last
  rw [List.map_map, List.map_map] at names
  exact ⟨Toolchain.spelling_injective .i8 width, Dialect.boolSpelling_injective boolean, names,
    last⟩

/-- Two prologues with one text are for the same toolchain and dialect, have the same
banner, guard and allocator, and the same references, each with its id, name, signature
and kind. -/
theorem text_determines_prologue (firstReachable : first.Reachable)
    (secondReachable : second.Reachable) (same : first.text = second.text) :
    first.toolchain = second.toolchain ∧
      first.dialect = second.dialect ∧
      first.layout.banner = second.layout.banner ∧
      first.layout.guard = second.layout.guard ∧
      first.backend.allocator = second.backend.allocator ∧
      first.functionRefs.handle?.isSome = second.functionRefs.handle?.isSome ∧
      first.functionRefs.list = second.functionRefs.list := by
  have items : first.items = second.items := by
    have declared := firstReachable.declares_text.whole
    rw [same, secondReachable.declares_text.whole] at declared
    exact (Option.some.inj declared).symm
  obtain ⟨toolchain, dialect, names, allocator⟩ := items_injective items
  have references : first.functionRefs.list = second.functionRefs.list :=
    firstReachable.functionRefs_wellFormed.list_eq_of_names
      secondReachable.functionRefs_wellFormed names
  refine ⟨toolchain, dialect, ?_, ?_, allocator, ?_, references⟩
  · rw [← firstReachable.beginsWithBanner_lines, same, secondReachable.beginsWithBanner_lines]
  · rw [← firstReachable.testedName?_lines, same, secondReachable.testedName?_lines]
  · rw [FunctionRefs.handle?, references]
    rfl

/-- A signature asked for before the prologue is made, and after it. -/
theorem text_determines_prologue_late :
    let taking : Signature := { ret := .void, params := [.void] }
    let gathering : Signature := { ret := .void, variadic := true }
    let early : Target :=
      { compiler := .gnu 9, dialect := .c, guard := some "PRELUDE",
        signatures := [taking, gathering] }
    let late : Target := { early with signatures := [taking] }
    ∃ first second, early.prologue = .ok first ∧ late.prologue = .ok second ∧
      let grown := (second.register gathering).1
      first.text = grown.text ∧ first.layout.guard = grown.layout.guard ∧
        first.functionRefs.list = grown.functionRefs.list := by
  intro taking gathering early late
  have accepted : isAllocatorName "calloc" = true := by decide
  let backend : Backend := ⟨.gnu, "calloc", accepted⟩
  have checked : Target.checkGuard backend (some "PRELUDE") = .ok () := by decide +revert
  have earlyMade : early.prologue = .ok ⟨backend, early.functionRefs, early.layout⟩ :=
    Target.prologue_eq_ok_iff.mpr ⟨.gnu, by decide, dif_pos accepted, checked, rfl, rfl⟩
  have lateMade : late.prologue = .ok ⟨backend, late.functionRefs, late.layout⟩ :=
    Target.prologue_eq_ok_iff.mpr ⟨.gnu, by decide, dif_pos accepted, checked, rfl, rfl⟩
  refine ⟨_, _, earlyMade, lateMade, ?_⟩
  intro grown
  have grownReachable : grown.Reachable := (Reachable.made lateMade).registered gathering
  have grown_eq : grown = ⟨backend, early.functionRefs, early.layout⟩ := by
    have references : (late.functionRefs.register gathering).1 = early.functionRefs := by decide
    simp only [grown, register, references]
    rfl
  have same : Prologue.text ⟨backend, early.functionRefs, early.layout⟩ = grown.text :=
    congrArg text grown_eq.symm
  obtain ⟨_, _, _, guard, _, _, references⟩ :=
    text_determines_prologue (Reachable.made earlyMade) grownReachable same
  exact ⟨same, guard, references⟩

end Prologue

end PortableC
