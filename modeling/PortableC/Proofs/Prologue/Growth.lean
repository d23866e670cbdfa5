import PortableC.Proofs.CheckUnit.Tokens
import PortableC.Proofs.FunctionRef.History
import PortableC.Proofs.Prologue.Lines
import PortableC.Proofs.Prologue.Portability

namespace PortableC

/-! What later requests do to the text of a prologue: each writes one line at most, behind the
function references that are already there, and nothing else moves.
-/

open CheckUnit (joinLines joinLines_append)
open Text (Unbroken)

namespace Prologue

variable (prologue : Prologue)

/-- The lines in front of the function references.  The last one is an alias as long as there
are no references. -/
def linesAbove : List String :=
  prologue.bannerTexts ++ prologue.layout.openingTexts ++
    (prologue.toolchain.widthLines ++ [""] ++ [prologue.dialect.boolLine] ++
      prologue.functionRefs.aliasTexts)

def referenceLines : List String :=
  prologue.functionRefs.list.map prologue.dialect.pointerLine

/-- The lines behind the function references, which are those of the allocator and the guard. -/
def linesBelow : List String :=
  ["", prologue.dialect.unmangledStorage ++ prologue.backend.allocatorText] ++
    prologue.layout.closingTexts

/-- The lines of references that are new, behind a blank one if they are the first. -/
def linesOf (added : List FunctionRef) : List String :=
  (if prologue.functionRefs.list.isEmpty && !added.isEmpty then [""] else []) ++
    added.map prologue.dialect.pointerLine

theorem joinLines_linesOf_single (ref : FunctionRef) :
    joinLines (prologue.linesOf [ref]) =
      (if prologue.functionRefs.isEmpty then "\n" else "") ++
        (prologue.dialect.pointerLine ref ++ "\n") := by
  rw [linesOf, FunctionRefs.isEmpty]
  cases prologue.functionRefs.list.isEmpty <;> simp [joinLines]

theorem text_eq_joinLines :
    prologue.text =
      joinLines (prologue.linesAbove ++ prologue.referenceLines) ++
        joinLines prologue.linesBelow := by
  rw [← joinLines_append]
  refine (prologue.layout.text_eq_join prologue.backend prologue.functionRefs).trans ?_
  refine congrArg joinLines (prologue.map_text_rows.trans ?_)
  simp only [linesAbove, referenceLines, linesBelow, List.append_assoc]

variable {prologue}

theorem text_extended {refs : FunctionRefs} {added : List FunctionRef}
    (extended : refs.list = prologue.functionRefs.list ++ added) :
    ({ prologue with functionRefs := refs } : Prologue).text =
      joinLines (prologue.linesAbove ++ prologue.referenceLines) ++
        joinLines (prologue.linesOf added) ++ joinLines prologue.linesBelow := by
  have above : linesAbove { prologue with functionRefs := refs } ++
      referenceLines { prologue with functionRefs := refs } =
      prologue.linesAbove ++ prologue.referenceLines ++ prologue.linesOf added := by
    simp only [linesAbove, referenceLines, linesOf, FunctionRefs.aliasTexts, extended]
    cases prologue.functionRefs.list with
    | nil => cases added <;> simp [bannerTexts, toolchain, dialect]
    | cons ref list => simp [bannerTexts, toolchain, dialect]
  rw [text_eq_joinLines, above, joinLines_append]
  rfl

theorem Reachable.unbroken_pointerLine (reachable : prologue.Reachable) {ref : FunctionRef}
    (listed : ref ∈ prologue.functionRefs.list) : Unbroken (prologue.dialect.pointerLine ref) := by
  have declared : .pointer ref.name ref.signature ∈ prologue.declarations := by
    rw [declarations, Layout.declarations_eq]
    refine List.mem_append_left _ (List.mem_append_right _ ?_)
    exact List.mem_map_of_mem listed
  have wellSpelled : (Row.declaration (.pointer ref.name ref.signature)).WellSpelled :=
    Layout.wellSpelled_declaration reachable.functionRefs_wellFormed declared
  exact (Row.unbroken_text prologue.dialect wellSpelled :)

theorem Reachable.register_served (reachable : prologue.Reachable) {signature : Signature}
    (served : signature ∈ prologue.functionRefs.typedSignatures) :
    (prologue.register signature).1 = prologue := by
  rcases reachable.functionRefs_wellFormed.perform_cases (.typed signature) with
    ⟨ref, _, _, done⟩ | ⟨missing, _⟩
  · exact congrArg (fun refs => { prologue with functionRefs := refs }) (congrArg Prod.fst done)
  · exact absurd (FunctionRefs.mem_typedSignatures_iff.mp served) missing

theorem Reachable.register_new (reachable : prologue.Reachable) {signature : Signature}
    (missing : signature ∉ prologue.functionRefs.typedSignatures) :
    (prologue.register signature).1.functionRefs.list =
      prologue.functionRefs.list ++ [.serving prologue.functionRefs.size (some signature)] := by
  rcases reachable.functionRefs_wellFormed.perform_cases (.typed signature) with
    ⟨ref, listed, serves, _⟩ | ⟨_, done⟩
  · have served := FunctionRefs.mem_typedSignatures_iff.mpr (List.mem_map.mpr ⟨ref, listed, serves⟩)
    exact absurd served missing
  · exact congrArg (fun result => result.1.list) done

/-- However many requests come, the lines that are there stay in two parts with the new ones
between them. -/
theorem Reachable.text_registerAll (reachable : prologue.Reachable) (later : List Signature) :
    ∃ added, (prologue.registerAll later).functionRefs.list =
        prologue.functionRefs.list ++ added ∧
      (prologue.registerAll later).text =
        joinLines (prologue.linesAbove ++ prologue.referenceLines) ++
          joinLines (prologue.linesOf added) ++ joinLines prologue.linesBelow := by
  obtain ⟨added, extended⟩ :=
    reachable.functionRefs_wellFormed.prefix_performAll (later.map .typed)
  rw [← FunctionRefs.registerAll_eq_performAll] at extended
  rw [registerAll_eq]
  exact ⟨added, extended.symm, text_extended extended.symm⟩

/-- A signature that has its reference changes nothing.  Any other one gets a reference, whose
declaration is written on one line between the references there are and the lines below; the
first reference of all has a blank line in front of it. -/
theorem register_inserts_one_line (reachable : prologue.Reachable) (signature : Signature) :
    let next := (prologue.register signature).1
    let above := joinLines (prologue.linesAbove ++ prologue.referenceLines)
    let below := joinLines prologue.linesBelow
    let added : FunctionRef :=
      ⟨prologue.functionRefs.size, signature.pointerName, signature, .typed⟩
    let line := prologue.dialect.pointerLine added
    prologue.text = above ++ below ∧
    (signature ∈ prologue.functionRefs.typedSignatures →
      next.text = prologue.text ∧ next.checkUnit = prologue.checkUnit ∧
        next.functionRefs = prologue.functionRefs) ∧
    (signature ∉ prologue.functionRefs.typedSignatures →
      next.functionRefs.list = prologue.functionRefs.list ++ [added] ∧ Unbroken line ∧
        next.text = above ++
          (if prologue.functionRefs.isEmpty then "\n" else "") ++ (line ++ "\n") ++ below) := by
  intro next above below added line
  refine ⟨prologue.text_eq_joinLines, fun served => ?_, fun missing => ?_⟩
  · have same : next = prologue := reachable.register_served served
    rw [same]
    exact ⟨rfl, rfl, rfl⟩
  · have extended : next.functionRefs.list = prologue.functionRefs.list ++ [added] :=
      reachable.register_new missing
    refine ⟨extended, ?_, ?_⟩
    · exact (reachable.registered signature).unbroken_pointerLine (by rw [extended]; simp)
    · refine (text_extended extended).trans ?_
      rw [joinLines_linesOf_single, ← String.append_assoc]

theorem register_inserts_one_line_thrice :
    let target : Target :=
      { compiler := .gnu 9, allocator := some "GC_malloc", handle := false }
    let early : Signature := { ret := .void }
    let late : Signature := { ret := .void, variadic := true }
    ∃ made, target.prologue = .ok made ∧
      let once := (made.register early).1
      (∃ above below, made.text = above ++ below ∧
        once.text = above ++ "\n" ++ "typedef void (*fn_void)(void);\n" ++ below) ∧
      (once.register early).1.text = once.text ∧
      ∃ above below, once.text = above ++ below ∧
        (once.register late).1.text = above ++ "typedef void (*fn_void_va)(...);\n" ++ below := by
  intro target early late
  let prologue : Prologue :=
    ⟨⟨.gnu, "GC_malloc", by decide⟩, target.functionRefs, target.layout⟩
  have made : target.prologue = .ok prologue := Target.prologue_of_checked (by decide) rfl rfl
  have reachable := Reachable.made made
  obtain ⟨whole, _, new⟩ := register_inserts_one_line reachable early
  obtain ⟨_, _, grown⟩ := new (by decide)
  obtain ⟨wholeOnce, again, _⟩ := register_inserts_one_line (reachable.registered early) early
  obtain ⟨_, _, newLate⟩ := register_inserts_one_line (reachable.registered early) late
  obtain ⟨_, _, grownLate⟩ := newLate (by decide)
  have empty : prologue.functionRefs.isEmpty = true := rfl
  have filled : (prologue.register early).1.functionRefs.isEmpty = false := by decide
  have line : prologue.dialect.pointerLine
      ⟨prologue.functionRefs.size, early.pointerName, early, .typed⟩ ++ "\n" =
        "typedef void (*fn_void)(void);\n" := by
    decide
  have lineLate : (prologue.register early).1.dialect.pointerLine
      ⟨(prologue.register early).1.functionRefs.size, late.pointerName, late, .typed⟩ ++ "\n" =
        "typedef void (*fn_void_va)(...);\n" := by
    decide
  simp only [empty, line, ↓reduceIte] at grown
  simp only [filled, lineLate, Bool.false_eq_true, ↓reduceIte, String.append_empty] at grownLate
  exact ⟨prologue, made, ⟨_, _, whole, grown⟩, (again (by decide)).1, _, _, wholeOnce,
    grownLate⟩

end Prologue

end PortableC
