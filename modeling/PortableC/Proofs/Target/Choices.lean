import PortableC.Proofs.FunctionRef.Places
import PortableC.Proofs.Prologue.Reachable

namespace PortableC

/-! What a list of choices comes to.

Of the choices for one part of a target only the latest counts.  Signatures accumulate, but a
signature that came up before makes no difference to the references.  So it does not matter how
choices for different parts are mixed.
-/

open FunctionRef (oneLater serving typedFor)

namespace Target

namespace Choice

def compiler? : Choice → Option Compiler
  | .compiler value => some value
  | _ => none

def dialect? : Choice → Option Dialect
  | .dialect value => some value
  | _ => none

def allocator? : Choice → Option String
  | .allocator name => some name
  | _ => none

def handle? : Choice → Option Bool
  | .handle enabled => some enabled
  | _ => none

def guard? : Choice → Option String
  | .guard name => some name
  | _ => none

def banner? : Choice → Option Bool
  | .banner enabled => some enabled
  | _ => none

/-- The signatures that a choice adds. -/
def added : Choice → List Signature
  | .signature one => [one]
  | .signatures several => several
  | _ => []

end Choice

/-- The value that is given last for the part that `read` reads. -/
def latest? {α : Type} (read : Choice → Option α) (choices : List Choice) : Option α :=
  (choices.filterMap read).getLast?

/-- All signatures that are given, in order. -/
def givenSignatures (choices : List Choice) : List Signature :=
  choices.flatMap Choice.added

/-- The same value is given last for every part, and the same signatures come up in the same
order, apart from repetitions. -/
structure ComeToTheSame (first second : List Choice) : Prop where
  compiler : latest? Choice.compiler? first = latest? Choice.compiler? second
  dialect : latest? Choice.dialect? first = latest? Choice.dialect? second
  allocator : latest? Choice.allocator? first = latest? Choice.allocator? second
  handle : latest? Choice.handle? first = latest? Choice.handle? second
  guard : latest? Choice.guard? first = latest? Choice.guard? second
  banner : latest? Choice.banner? first = latest? Choice.banner? second
  signatures : (givenSignatures first).eraseDups = (givenSignatures second).eraseDups

theorem latest?_cons {α : Type} (read : Choice → Option α) (choice : Choice)
    (choices : List Choice) :
    latest? read (choice :: choices) = (latest? read choices).or (read choice) := by
  simp only [latest?, List.filterMap_cons]
  cases read choice with
  | none => rw [Option.or_none]
  | some value =>
      rw [List.getLast?_cons]
      cases (choices.filterMap read).getLast? <;> rfl

theorem chooseAll_cons (target : Target) (choice : Choice) (choices : List Choice) :
    target.chooseAll (choice :: choices) = (target.choose choice).chooseAll choices :=
  rfl

/-- A target after any choices, part by part. -/
theorem chooseAll_eq (target : Target) (choices : List Choice) :
    target.chooseAll choices =
      { compiler := (latest? Choice.compiler? choices).getD target.compiler
        dialect := (latest? Choice.dialect? choices).getD target.dialect
        allocator := (latest? Choice.allocator? choices).or target.allocator
        signatures := target.signatures ++ givenSignatures choices
        handle := (latest? Choice.handle? choices).getD target.handle
        guard := (latest? Choice.guard? choices).or target.guard
        banner := (latest? Choice.banner? choices).getD target.banner } := by
  induction choices generalizing target with
  | nil => simp [chooseAll, latest?, givenSignatures]
  | cons choice choices induction =>
      rw [chooseAll_cons, induction]
      cases choice <;>
        simp [latest?_cons, givenSignatures, choose, Choice.compiler?, Choice.dialect?,
          Choice.allocator?, Choice.handle?, Choice.guard?, Choice.banner?, Choice.added]

variable {first second : Target}

/-- The references depend on the handle and on the signatures without repetitions. -/
theorem functionRefs_congr (handle : first.handle = second.handle)
    (signatures : first.signatures.eraseDups = second.signatures.eraseDups) :
    first.functionRefs = second.functionRefs := by
  have lists : first.functionRefs.list = second.functionRefs.list := by
    rw [list_functionRefs, list_functionRefs, handle, signatures]
  exact congrArg FunctionRefs.mk lists

theorem prologue_congr (compiler : first.compiler = second.compiler)
    (allocator : first.allocator = second.allocator) (layout : first.layout = second.layout)
    (functionRefs : first.functionRefs = second.functionRefs) :
    first.prologue = second.prologue := by
  have guard : first.guard = second.guard := congrArg Layout.guard layout
  simp only [prologue, compiler, allocator, guard, layout, functionRefs]

/-- Lists of choices that come to the same make the same prologue, with the same references and
hence the same texts, or fail with the same error.  Whatever they make has the values that are
given last, the defaults where none is given, and one reference for each signature.  The handle
stands in front of them, no matter when it was chosen. -/
theorem prologue_follows_latest_choices (compiler : Compiler) {first second : List Choice}
    (same : ComeToTheSame first second) :
    let start : Target := { compiler }
    (start.chooseAll first).prologue = (start.chooseAll second).prologue ∧
    ∀ prologue, (start.chooseAll first).prologue = .ok prologue →
      let signatures := (givenSignatures first).eraseDups
      ((latest? Choice.compiler? first).getD compiler).toolchain = .ok prologue.toolchain ∧
      prologue.dialect = (latest? Choice.dialect? first).getD .cxx ∧
      prologue.backend.allocator = (latest? Choice.allocator? first).getD "calloc" ∧
      prologue.layout.guard = latest? Choice.guard? first ∧
      prologue.layout.banner = (latest? Choice.banner? first).getD true ∧
      prologue.functionRefs.list =
        if (latest? Choice.handle? first).getD true then
          serving 0 none :: (typedFor signatures).map oneLater
        else typedFor signatures := by
  intro start
  constructor
  · have references :
        (start.chooseAll first).functionRefs = (start.chooseAll second).functionRefs :=
      functionRefs_congr (by simp only [chooseAll_eq, same.handle])
        (by simpa only [chooseAll_eq, start, List.nil_append] using same.signatures)
    refine prologue_congr ?_ ?_ ?_ references
    · simp only [chooseAll_eq, same.compiler]
    · simp only [chooseAll_eq, same.allocator]
    · simp only [chooseAll_eq, layout, same.dialect, same.guard, same.banner]
  · intro prologue made signatures
    obtain ⟨toolchain, resolved, backend, _, references, layout⟩ := prologue_eq_ok_iff.mp made
    obtain ⟨rfl, allocator⟩ := Backend.make_eq_ok_iff.mp backend
    rw [chooseAll_eq] at resolved allocator references layout
    refine ⟨resolved, congrArg Layout.dialect layout, ?_, ?_, congrArg Layout.banner layout, ?_⟩
    · rw [allocator]
      simp only [start, Option.or_none]
      rfl
    · rw [layout]
      simp only [Target.layout, start, Option.or_none]
    · rw [references, list_functionRefs]
      rfl

/-- The handle turned off and on again between signatures that come twice, and the same by a
shorter way. -/
theorem prologue_follows_latest_choices_repeated :
    let call : Signature := { ret := .int .i32, params := [.int .i32] }
    let first : List Choice :=
      [.signature call, .handle false, .guard "GC_malloc", .signatures [{ ret := .void }, call],
        .compiler (.gnu 9), .guard "PRELUDE_H", .handle true]
    let second : List Choice :=
      [.handle true, .compiler .msvc, .guard "PRELUDE_H", .compiler (.gnu 9), .signatures [call],
        .signature { ret := .void }]
    let start : Target := { compiler := .unknown }
    ComeToTheSame first second ∧
      (start.chooseAll first).prologue = (start.chooseAll second).prologue ∧
      ∃ prologue, (start.chooseAll first).prologue = .ok prologue ∧
        prologue.toolchain = .gnu ∧
        prologue.functionRefs.list.map FunctionRef.name = ["anyFn", "fn_i32_i32", "fn_void"] := by
  intro call first second start
  have same : ComeToTheSame first second :=
    { compiler := rfl, dialect := rfl, allocator := rfl, handle := rfl, guard := rfl, banner := rfl
      signatures := by decide }
  obtain ⟨alike, parts⟩ := prologue_follows_latest_choices .unknown same
  let backend : Backend := ⟨.gnu, "calloc", by decide⟩
  have made : (start.chooseAll first).prologue =
      .ok ⟨backend, (start.chooseAll first).functionRefs, (start.chooseAll first).layout⟩ :=
    prologue_eq_ok_iff.mpr ⟨.gnu, by decide, Backend.make_eq_ok_iff.mpr ⟨rfl, rfl⟩, by decide,
      rfl, rfl⟩
  obtain ⟨_, _, _, _, _, references⟩ := parts _ made
  refine ⟨same, alike, _, made, rfl, ?_⟩
  rw [references]
  decide

end Target

end PortableC
