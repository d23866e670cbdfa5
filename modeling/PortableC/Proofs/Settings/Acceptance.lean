import PortableC.Proofs.Settings.Resolution

namespace PortableC

/-! Which settings a prologue is made of, and what is wrong with any others.

Settings go through a list of checks, and each looks at the settings alone.  The texts come
first, in the order toolchain, dialect, signatures; then the toolchain has to be a supported
one, and the two chosen names have to be free.  The first check that fails gives the error.
If none fails, the settings stand for choices of a target, and the prologue is that target's.
-/

namespace Settings

variable {settings : Settings} {compiler : Compiler} {dialect : Dialect}
  {signatures : List Signature} {toolchain : Toolchain} {backend : Backend} {error : Error}

inductive Check where
  | toolchainText
  | dialectText
  | signatureText (text : String)
  | toolchain
  | allocator
  | guard
deriving DecidableEq, Repr

/-- The checks in their order. -/
def checks (settings : Settings) : List Check :=
  .toolchainText :: .dialectText :: (settings.signatures.map .signatureText ++
    [.toolchain, .allocator, .guard])

def AcceptsAllocator (name : String) : Prop :=
  isFreeName name = true ∧ name ≠ "memset"

/-- A guard must be no name that a primitive goes by, and not that of the allocator. -/
def AcceptsGuard (settings : Settings) (name : String) : Prop :=
  isFreeName name = true ∧ name ≠ "memset" ∧ name ≠ "calloc" ∧ settings.allocator ≠ some name

/-- What each check finds wrong. -/
def Fails (settings : Settings) : Check → Error → Prop
  | .toolchainText, error =>
      ∃ name, settings.toolchain = some name ∧ Compiler.parse name = .error error
  | .dialectText, error => ∃ name, settings.dialect = some name ∧ Dialect.parse name = .error error
  | .signatureText text, error => Signature.parse text = .error error
  | .toolchain, error =>
      settings.toolchain = none ∧ error = .noToolchain ∨
        ∃ name compiler, settings.toolchain = some name ∧ Compiler.parse name = .ok compiler ∧
          compiler.toolchain = .error error
  | .allocator, error =>
      ∃ name, settings.allocator = some name ∧ ¬ AcceptsAllocator name ∧
        error = .notAnIdentifier name
  | .guard, error =>
      ∃ name, settings.guard = some name ∧ ¬ settings.AcceptsGuard name ∧
        error = .notAnIdentifier name

/-- Settings that pass every check. -/
structure Acceptable (settings : Settings) : Prop where
  toolchain : ∃ name compiler toolchain, settings.toolchain = some name ∧
    Compiler.parse name = .ok compiler ∧ compiler.toolchain = .ok toolchain
  dialect : ∀ name, settings.dialect = some name → ∃ dialect, Dialect.parse name = .ok dialect
  signatures : ∀ text ∈ settings.signatures, ∃ signature, Signature.parse text = .ok signature
  allocator : ∀ name, settings.allocator = some name → AcceptsAllocator name
  guard : ∀ name, settings.guard = some name → settings.AcceptsGuard name

/-- The values that the texts of settings stand for.  A dialect that is left open is C++. -/
structure Reads (settings : Settings) (compiler : Compiler) (dialect : Dialect)
    (signatures : List Signature) : Prop where
  toolchain : settings.toolchain = none ∧ compiler = .unknown ∨
    ∃ name, settings.toolchain = some name ∧ Compiler.parse name = .ok compiler
  dialect : settings.dialect = none ∧ dialect = .cxx ∨
    ∃ name, settings.dialect = some name ∧ Dialect.parse name = .ok dialect
  signatures : settings.signatures.map Signature.parse = signatures.map .ok

/-- One choice for everything that is set. -/
def choices (settings : Settings) (dialect : Dialect) (signatures : List Signature) :
    List Target.Choice :=
  (settings.dialect.map fun _ => .dialect dialect).toList ++
    (settings.allocator.map .allocator).toList ++ (settings.handle.map .handle).toList ++
    (settings.guard.map .guard).toList ++ (settings.banner.map .banner).toList ++
    signatures.map .signature

/-- What settings are that leave everything open, with all that has a default spelled out. -/
def defaults : Settings :=
  { dialect := some "c++", allocator := some "calloc", handle := some true, banner := some true }

/-! Each step fails like its check. -/

section
variable {α : Type} {read : String → Except Error α} {fallback value : α} {text : Option String}

/-- A text is read, if there is one. -/
def readOr (read : String → Except Error α) (fallback : α) : Option String → Except Error α
  | some text => read text
  | none => .ok fallback

theorem readOr_eq_ok_iff : readOr read fallback text = .ok value ↔
    text = none ∧ value = fallback ∨ ∃ name, text = some name ∧ read name = .ok value := by
  cases text with
  | none => simp [readOr, eq_comm]
  | some name => simp [readOr]

theorem readOr_eq_error_iff : readOr read fallback text = .error error ↔
    ∃ name, text = some name ∧ read name = .error error := by
  cases text <;> simp [readOr]

end

theorem compiler_eq_readOr (settings : Settings) :
    settings.compiler = readOr Compiler.parse .unknown settings.toolchain := by
  rw [Settings.compiler]
  cases settings.toolchain <;> rfl

theorem dialectOrDefault_eq_readOr (settings : Settings) :
    settings.dialectOrDefault = readOr Dialect.parse .cxx settings.dialect := by
  rw [Settings.dialectOrDefault]
  cases settings.dialect <;> rfl

theorem compiler_eq_error_iff :
    settings.compiler = .error error ↔ settings.Fails .toolchainText error := by
  rw [compiler_eq_readOr]
  exact readOr_eq_error_iff

theorem dialectOrDefault_eq_error_iff :
    settings.dialectOrDefault = .error error ↔ settings.Fails .dialectText error := by
  rw [dialectOrDefault_eq_readOr]
  exact readOr_eq_error_iff

/-- The text has been read when the toolchain is looked at. -/
theorem toolchain_eq_error_iff (read : settings.compiler = .ok compiler) :
    compiler.toolchain = .error error ↔ settings.Fails .toolchain error := by
  rw [compiler_eq_readOr, readOr_eq_ok_iff] at read
  rcases read with ⟨unnamed, rfl⟩ | ⟨name, named, parsed⟩
  · simp [Fails, unnamed, Compiler.toolchain, eq_comm]
  · simp [Fails, named, parsed]

theorem isAllocatorName_iff {name : String} :
    isAllocatorName name = true ↔ AcceptsAllocator name := by
  have others : (Primitive.all.any fun primitive =>
      primitive != .allocate && primitive.name == name) = ("memset" == name) := by
    simp [Primitive.all, Primitive.name]
  rw [isAllocatorName, others, Bool.and_eq_true, Bool.not_eq_true', beq_eq_false_iff_ne, ne_comm,
    AcceptsAllocator]

theorem make_eq_error_iff :
    Backend.make toolchain settings.allocator = .error error ↔ settings.Fails .allocator error := by
  rw [Backend.make, Fails]
  cases settings.allocator with
  | none =>
      have accepted : isAllocatorName Backend.defaultAllocator = true := by decide
      simp [accepted]
  | some name =>
      simp only [Option.getD_some, Option.some.injEq, exists_eq_left', ← isAllocatorName_iff]
      split <;> simp [*, eq_comm]

theorem isGuardName_of_make (made : Backend.make toolchain settings.allocator = .ok backend)
    {name : String} : Target.isGuardName backend name = true ↔ settings.AcceptsGuard name := by
  have allocator : backend.allocator = settings.allocator.getD "calloc" :=
    (Backend.make_eq_ok_iff.mp made).2
  rw [Target.isGuardName_iff, allocator, AcceptsGuard, ne_comm, @ne_comm _ "calloc"]
  refine and_congr_right fun _ => and_congr_right fun _ => and_congr_right fun other => ?_
  cases settings.allocator with
  | none => simp [Ne.symm other]
  | some chosen => simp

theorem checkGuard_eq_error_iff (made : Backend.make toolchain settings.allocator = .ok backend) :
    Target.checkGuard backend settings.guard = .error error ↔ settings.Fails .guard error := by
  rw [Fails]
  cases settings.guard with
  | none => exact iff_of_false nofun nofun
  | some name =>
      simp only [Target.checkGuard, Option.some.injEq, exists_eq_left', ← isGuardName_of_make made]
      split <;> simp [*, eq_comm]

theorem prologue_eq_chain (settings : Settings) :
    settings.prologue = settings.compiler >>= fun compiler =>
      settings.dialectOrDefault >>= fun dialect =>
        settings.signatures.mapM Signature.parse >>= fun signatures =>
          compiler.toolchain >>= fun toolchain =>
            Backend.make toolchain settings.allocator >>= fun backend =>
              Target.checkGuard backend settings.guard >>= fun _ =>
                let target := settings.described compiler dialect signatures
                .ok ⟨backend, target.functionRefs, target.layout⟩ := by
  simp only [prologue, target, bind_assoc]
  rfl

theorem prologue_eq_error_iff :
    settings.prologue = .error error ↔ FirstFailure settings.Fails settings.checks error := by
  rw [prologue_eq_chain, checks]
  refine FirstFailure.bind_iff (fun _ => compiler_eq_error_iff) fun compiler read => ?_
  refine FirstFailure.bind_iff (fun _ => dialectOrDefault_eq_error_iff) fun dialect _ => ?_
  refine FirstFailure.mapM_bind_iff (fun _ _ => Iff.rfl) fun signatures _ => ?_
  refine FirstFailure.bind_iff (fun _ => toolchain_eq_error_iff read) fun toolchain _ => ?_
  refine FirstFailure.bind_iff (fun _ => make_eq_error_iff) fun backend made => ?_
  refine FirstFailure.bind_iff (fun _ => checkGuard_eq_error_iff made) fun _ _ => ?_
  exact ⟨nofun, nofun⟩

/-! Settings are acceptable when no check fails on them. -/

theorem not_fails_toolchain_iff :
    (∀ error, ¬ settings.Fails .toolchainText error) ∧
        (∀ error, ¬ settings.Fails .toolchain error) ↔
      ∃ name compiler toolchain, settings.toolchain = some name ∧
        Compiler.parse name = .ok compiler ∧ compiler.toolchain = .ok toolchain := by
  constructor
  · rintro ⟨readable, supported⟩
    cases chosen : settings.toolchain with
    | none => exact absurd (.inl ⟨chosen, rfl⟩) (supported .noToolchain)
    | some name =>
        obtain ⟨compiler, read⟩ := exists_ok_iff.mpr fun error unread =>
          readable error ⟨name, chosen, unread⟩
        obtain ⟨toolchain, resolved⟩ := exists_ok_iff.mpr fun error unresolved =>
          supported error (.inr ⟨name, compiler, chosen, read, unresolved⟩)
        exact ⟨name, compiler, toolchain, rfl, read, resolved⟩
  · rintro ⟨name, compiler, toolchain, chosen, read, resolved⟩
    refine ⟨?_, ?_⟩
    · rintro error ⟨other, named, unread⟩
      cases chosen.symm.trans named
      cases read.symm.trans unread
    · rintro error (⟨unnamed, _⟩ | ⟨other, compiler, named, readToo, unresolved⟩)
      · cases unnamed.symm.trans chosen
      · cases chosen.symm.trans named
        cases read.symm.trans readToo
        cases resolved.symm.trans unresolved

theorem not_fails_dialectText_iff :
    (∀ error, ¬ settings.Fails .dialectText error) ↔
      ∀ name, settings.dialect = some name → ∃ dialect, Dialect.parse name = .ok dialect :=
  ⟨fun readable name named => exists_ok_iff.mpr fun error unread =>
      readable error ⟨name, named, unread⟩,
    fun reads error ⟨name, named, unread⟩ => exists_ok_iff.mp (reads name named) error unread⟩

theorem not_refused_iff {chosen : Option String} {accepts : String → Prop} :
    (∀ error, ¬ ∃ name, chosen = some name ∧ ¬ accepts name ∧ error = Error.notAnIdentifier name) ↔
      ∀ name, chosen = some name → accepts name :=
  ⟨fun passed name named => by_contra fun refused => passed _ ⟨name, named, refused, rfl⟩,
    fun accepted _ ⟨name, named, refused, _⟩ => refused (accepted name named)⟩

theorem acceptable_iff :
    settings.Acceptable ↔ ∀ check ∈ settings.checks, ∀ error, ¬ settings.Fails check error := by
  simp only [checks, List.forall_mem_cons, List.forall_mem_append, List.forall_mem_map]
  constructor
  · intro acceptable
    obtain ⟨readable, supported⟩ := not_fails_toolchain_iff.mpr acceptable.toolchain
    exact ⟨readable, not_fails_dialectText_iff.mpr acceptable.dialect,
      fun text listed => exists_ok_iff.mp (acceptable.signatures text listed), supported,
      not_refused_iff.mpr acceptable.allocator, not_refused_iff.mpr acceptable.guard, nofun⟩
  · rintro ⟨readable, dialect, signatures, supported, allocator, guard, _⟩
    exact ⟨not_fails_toolchain_iff.mp ⟨readable, supported⟩, not_fails_dialectText_iff.mp dialect,
      fun text listed => exists_ok_iff.mpr (signatures text listed),
      not_refused_iff.mp allocator, not_refused_iff.mp guard⟩

/-! Choices for what is set. -/

theorem reads_iff : settings.Reads compiler dialect signatures ↔
    settings.compiler = .ok compiler ∧ settings.dialectOrDefault = .ok dialect ∧
      settings.signatures.mapM Signature.parse = .ok signatures := by
  rw [compiler_eq_readOr, dialectOrDefault_eq_readOr, readOr_eq_ok_iff, readOr_eq_ok_iff,
    mapM_eq_ok_iff]
  exact ⟨fun ⟨toolchain, dialect, texts⟩ => ⟨toolchain, dialect, texts⟩,
    fun ⟨toolchain, dialect, texts⟩ => ⟨toolchain, dialect, texts⟩⟩

theorem chooseAll_append (target : Target) (first second : List Target.Choice) :
    target.chooseAll (first ++ second) = (target.chooseAll first).chooseAll second :=
  List.foldl_append

theorem chooseAll_signatures (target : Target) (signatures : List Signature) :
    target.chooseAll (signatures.map .signature) =
      { target with signatures := target.signatures ++ signatures } := by
  induction signatures generalizing target with
  | nil => simp [Target.chooseAll]
  | cons signature signatures induction =>
      refine (induction (target.choose (.signature signature))).trans ?_
      simp [Target.choose]

/-- What is not chosen is as settings have it when they leave it open. -/
theorem chooseAll_choices (read : settings.dialectOrDefault = .ok dialect) :
    ({ compiler } : Target).chooseAll (settings.choices dialect signatures) =
      settings.described compiler dialect signatures := by
  have dialects : ({ compiler } : Target).chooseAll
      (settings.dialect.map fun _ => .dialect dialect).toList = { compiler, dialect } := by
    rw [dialectOrDefault_eq_readOr, readOr_eq_ok_iff] at read
    rcases read with ⟨unnamed, rfl⟩ | ⟨name, named, _⟩
    · rw [unnamed]
      rfl
    · rw [named]
      rfl
  have allocators (target : Target) : target.chooseAll (settings.allocator.map .allocator).toList =
      { target with allocator := settings.allocator.or target.allocator } := by
    cases settings.allocator <;> rfl
  have handles (target : Target) : target.chooseAll (settings.handle.map .handle).toList =
      { target with handle := settings.handle.getD target.handle } := by
    cases settings.handle <;> rfl
  have guards (target : Target) : target.chooseAll (settings.guard.map .guard).toList =
      { target with guard := settings.guard.or target.guard } := by
    cases settings.guard <;> rfl
  have banners (target : Target) : target.chooseAll (settings.banner.map .banner).toList =
      { target with banner := settings.banner.getD target.banner } := by
    cases settings.banner <;> rfl
  simp only [choices, chooseAll_append, dialects, allocators, handles, guards, banners,
    chooseAll_signatures, Option.or_none, List.nil_append, described]

theorem prologue_of_reads (read : settings.Reads compiler dialect signatures) :
    settings.prologue =
      (({ compiler } : Target).chooseAll (settings.choices dialect signatures)).prologue := by
  obtain ⟨toolchain, language, texts⟩ := reads_iff.mp read
  have described : settings.target = .ok (settings.described compiler dialect signatures) :=
    target_eq_ok_iff.mpr ⟨compiler, dialect, signatures, toolchain, language, texts, rfl⟩
  rw [chooseAll_choices language, prologue, described]
  rfl

theorem reads_of_prologue {made : Prologue} (accepted : settings.prologue = .ok made) :
    ∃ compiler dialect signatures, settings.Reads compiler dialect signatures := by
  obtain ⟨target, described, _⟩ := bind_eq_ok_iff.mp accepted
  obtain ⟨compiler, dialect, signatures, toolchain, language, texts, _⟩ :=
    target_eq_ok_iff.mp described
  exact ⟨compiler, dialect, signatures, reads_iff.mpr ⟨toolchain, language, texts⟩⟩

/-- Nothing changes when a default is spelled out. -/
theorem prologue_overlay_defaults (settings : Settings) :
    (defaults.overlay settings).prologue = settings.prologue := by
  have toolchains : (defaults.overlay settings).toolchain = settings.toolchain := Option.or_none
  have compilers : (defaults.overlay settings).compiler = settings.compiler := by
    rw [compiler_eq_readOr, compiler_eq_readOr, toolchains]
  have dialects : (defaults.overlay settings).dialectOrDefault = settings.dialectOrDefault := by
    rw [dialectOrDefault_eq_readOr, dialectOrDefault_eq_readOr, overlay]
    have named : Dialect.parse "c++" = .ok .cxx := by decide +kernel
    cases settings.dialect with
    | none => exact named
    | some name => rfl
  have backends (toolchain : Toolchain) :
      Backend.make toolchain (defaults.overlay settings).allocator =
        Backend.make toolchain settings.allocator := by
    rw [overlay]
    cases settings.allocator <;> rfl
  have handles : (defaults.overlay settings).handle.getD true = settings.handle.getD true := by
    rw [overlay]
    cases settings.handle <;> rfl
  have banners : (defaults.overlay settings).banner.getD true = settings.banner.getD true := by
    rw [overlay]
    cases settings.banner <;> rfl
  have guards : (defaults.overlay settings).guard = settings.guard := Option.or_none
  have texts : (defaults.overlay settings).signatures = settings.signatures := rfl
  simp only [prologue_eq_chain, compilers, dialects, texts, backends, guards, described, handles,
    banners, Target.functionRefs, Target.layout]

/-- Settings make a prologue exactly when they pass every check, and the error of any others is
that of the first check that fails.  Once their texts are read, they make what the target makes
that is chosen by their values, part by part.  A part that is left open is as the defaults have
it: C++, the allocator `calloc`, the handle and the banner on, and no guard. -/
theorem made_or_first_failure (settings : Settings) :
    ((∃ prologue, settings.prologue = .ok prologue) ↔ settings.Acceptable) ∧
    (∀ error, settings.prologue = .error error ↔
      FirstFailure settings.Fails settings.checks error) ∧
    (∀ prologue, settings.prologue = .ok prologue →
      ∃ compiler dialect signatures, settings.Reads compiler dialect signatures) ∧
    (∀ compiler dialect signatures, settings.Reads compiler dialect signatures →
      settings.prologue =
        (({ compiler } : Target).chooseAll (settings.choices dialect signatures)).prologue) ∧
    (defaults.overlay settings).prologue = settings.prologue := by
  refine ⟨?_, fun _ => prologue_eq_error_iff, fun _ => reads_of_prologue,
    fun _ _ _ => prologue_of_reads, prologue_overlay_defaults settings⟩
  rw [acceptable_iff, exists_ok_iff, ← FirstFailure.not_iff]
  exact forall_congr' fun _ => not_congr prologue_eq_error_iff

/-- Settings that name all but the dialect and the handle, and the same with a dialect that
is unknown, a signature that is none and a guard that is taken: the dialect is what is wrong. -/
theorem made_or_first_failure_open_dialect :
    let settings : Settings :=
      { toolchain := some "gcc-9", allocator := some "GC_malloc", guard := some "PRELUDE_H"
        banner := some false, signatures := ["void*(u32)", " void * ( u32 ) "] }
    let faulty : Settings :=
      { settings with
        dialect := some "c--", signatures := ["i9()"], guard := some "GC_malloc" }
    let allocating : Signature := { ret := .voidPointer, params := [.int .u32] }
    settings.Reads (.gnu 9) .cxx [allocating, allocating] ∧
      (∃ prologue, settings.prologue = .ok prologue) ∧
      settings.prologue = (({ compiler := .gnu 9 } : Target).chooseAll
        [.allocator "GC_malloc", .guard "PRELUDE_H", .banner false, .signature allocating,
          .signature allocating]).prologue ∧
      faulty.prologue = .error (.unknownDialect "c--") := by
  intro settings faulty allocating
  obtain ⟨made, _, _, direct, _⟩ := made_or_first_failure settings
  obtain ⟨_, failed, _, _, _⟩ := made_or_first_failure faulty
  have named : Compiler.parse "gcc-9" = .ok (.gnu 9) := by decide +kernel
  have read : settings.Reads (.gnu 9) .cxx [allocating, allocating] :=
    ⟨.inr ⟨"gcc-9", rfl, named⟩, .inl ⟨rfl, rfl⟩, by decide⟩
  have unread : Dialect.parse "c--" = .error (.unknownDialect "c--") := by decide +kernel
  refine ⟨read, made.mpr ⟨⟨"gcc-9", .gnu 9, .gnu, rfl, named, by decide⟩, nofun, ?_, ?_, ?_⟩,
    direct _ _ _ read, (failed _).mpr (.later ?_ (.here ⟨"c--", rfl, unread⟩))⟩
  · exact List.forall_mem_cons.mpr ⟨⟨allocating, by decide⟩,
      List.forall_mem_cons.mpr ⟨⟨allocating, by decide⟩, nofun⟩⟩
  · rintro _ ⟨⟩
    exact ⟨by decide, by decide⟩
  · rintro _ ⟨⟩
    exact ⟨by decide, by decide, by decide, by decide⟩
  · rintro error ⟨_, ⟨⟩, failed⟩
    cases named.symm.trans failed

end Settings

end PortableC
