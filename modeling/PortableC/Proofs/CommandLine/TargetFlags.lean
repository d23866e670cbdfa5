import PortableC.Proofs.CommandLine.Scan

namespace PortableC

/-! The flags of a target mean the same to every command that takes them. -/

open Given (Outside Within)

namespace Given

variable {flag : Flag} {front given : List Given}

theorem targetFlags_behind (apart : Outside CommandName.targetFlags front) :
    targetFlags (front ++ given) = targetFlags given := by
  have absent : ∀ flag ∈ CommandName.targetFlags, ∀ one ∈ front, one.flag ≠ flag := by
    rintro flag listed one member rfl
    exact apart one member listed
  have sameValues : ∀ flag ∈ CommandName.targetFlags,
      values flag (front ++ given) = values flag given :=
    fun flag listed => values_behind (absent flag listed)
  have sameHas : ∀ flag ∈ CommandName.targetFlags, has flag (front ++ given) = has flag given :=
    fun flag listed => has_behind (absent flag listed)
  simp only [targetFlags, value?, switchedOff, sameValues .config (by decide),
    sameValues .toolchain (by decide), sameValues .dialect (by decide),
    sameValues .allocator (by decide), sameValues .guard (by decide),
    sameValues .signature (by decide), sameHas .noHandle (by decide),
    sameHas .noBanner (by decide)]

theorem value?_eq_none (absent : ∀ one ∈ given, one.flag ≠ flag) : value? flag given = none := by
  rw [value?, values_eq_nil absent, List.head?_nil]

theorem ne_of_within {flags : List Flag} (within : Within flags given) (foreign : flag ∉ flags) :
    ∀ one ∈ given, one.flag ≠ flag := by
  rintro one member rfl
  exact foreign (within one member)

end Given

theorem Scan.words_targetFlags {words : List String} {front given : List Given}
    (apart : Outside CommandName.targetFlags front) (more : List Flag)
    (read : Scan.words CommandName.targetFlags {} words = .ok given) :
    Scan.words (CommandName.targetFlags ++ more) { given := front } words = .ok (front ++ given) ∧
      Within CommandName.targetFlags given := by
  have start : Knows CommandName.targetFlags {} :=
    { given := fun one member => by cases member
      pending := fun one isPending => by cases isPending }
  obtain ⟨readBehind, within⟩ := words_behind apart more start read
  rw [behind, List.append_nil] at readBehind
  exact ⟨readBehind, within⟩

namespace Command

variable {words : List String} {given : List Given}

theorem parse_word (name : CommandName) (words : List String) :
    parse (name.word :: words) =
      (Scan.words name.flags {} words).map fun given => ofGiven given name := by
  have plain : WordForm.of name.word = .plain := by cases name <;> decide
  have notHelp : name.word ≠ "help" := by cases name <;> decide
  have named : CommandName.ofWord? name.word = some name := by cases name <;> decide
  simp only [parse, plain, if_neg notHelp, named]
  cases Scan.words name.flags {} words <;> rfl

/-- Words that describe a target ask for nothing else. -/
theorem ofGiven_within (within : Within CommandName.targetFlags given) :
    ofGiven given .emit = .emit (Given.targetFlags given) none .auto ∧
      ofGiven given .probe = .probe (Given.targetFlags given) none ∧
      ofGiven given .symbols = .symbols (Given.targetFlags given) false := by
  have noOutput : Given.value? .output given = none :=
    Given.value?_eq_none (Given.ne_of_within within (by decide))
  have noColor : Given.value? .color given = none :=
    Given.value?_eq_none (Given.ne_of_within within (by decide))
  have noJson : Given.has .json given = false :=
    Given.has_eq_false (Given.ne_of_within within (by decide))
  simp only [ofGiven, Given.color, noOutput, noColor, noJson, and_self]

def uncolored : List Given :=
  [⟨.color, some "never"⟩]

theorem outside_uncolored : Outside CommandName.targetFlags uncolored :=
  List.forall_mem_singleton.mpr (by decide)

theorem ofGiven_uncolored (within : Within CommandName.targetFlags given) :
    ofGiven (uncolored ++ given) .emit = .emit (Given.targetFlags given) none .never := by
  have noOutput : Given.value? .output (uncolored ++ given) = none := by
    refine Given.value?_eq_none (List.forall_mem_append.mpr ⟨?_, ?_⟩)
    · exact List.forall_mem_singleton.mpr (by decide)
    · exact Given.ne_of_within within (by decide)
  have never : Given.color (uncolored ++ given) = .never := rfl
  rw [ofGiven, noOutput, never, Given.targetFlags_behind outside_uncolored]

theorem words_uncolored (words : List String) :
    Scan.words CommandName.emit.flags {} ("--color" :: "never" :: words) =
      Scan.words CommandName.emit.flags { given := uncolored } words := by
  have accepted : Scan.accept [] ⟨.color, some "never"⟩ = .ok uncolored := rfl
  have name : Scan.takeWord CommandName.emit.flags {} "--color" =
      .ok { pending := some ⟨.color, none⟩ } := rfl
  have value : Scan.takeWord CommandName.emit.flags { pending := some ⟨.color, none⟩ } "never" =
      .ok { pending := some ⟨.color, some "never"⟩ } := rfl
  have nameGoesOn : WordForm.of "--color" ≠ .separator := by decide
  have valueGoesOn : WordForm.of "never" ≠ .separator := by decide
  rw [Scan.words_taken nameGoesOn name, Scan.words_taken valueGoesOn value,
    Scan.words_pending accepted]

/-- Words that describe a target make each command work on that target. -/
theorem parse_targetFlags (read : Scan.words CommandName.targetFlags {} words = .ok given) :
    parse ("emit" :: words) = .ok (.emit (Given.targetFlags given) none .auto) ∧
    parse ("emit" :: "--color" :: "never" :: words) =
      .ok (.emit (Given.targetFlags given) none .never) ∧
    parse ("probe" :: words) = .ok (.probe (Given.targetFlags given) none) ∧
    parse ("symbols" :: words) = .ok (.symbols (Given.targetFlags given) false) := by
  have nothing : Outside CommandName.targetFlags [] := List.forall_mem_nil _
  obtain ⟨emit, within⟩ := Scan.words_targetFlags nothing [.output, .color, .help] read
  obtain ⟨plain, _⟩ := Scan.words_targetFlags outside_uncolored [.output, .color, .help] read
  obtain ⟨probe, _⟩ := Scan.words_targetFlags nothing [.output, .help] read
  obtain ⟨symbols, _⟩ := Scan.words_targetFlags nothing [.json, .help] read
  obtain ⟨isEmit, isProbe, isSymbols⟩ := ofGiven_within within
  refine ⟨(parse_word .emit _).trans ?_, (parse_word .emit _).trans ?_,
    (parse_word .probe _).trans ?_, (parse_word .symbols _).trans ?_⟩
  · rw [CommandName.flags, emit, Except.map, List.nil_append, isEmit]
  · rw [words_uncolored, CommandName.flags, plain, Except.map, ofGiven_uncolored within]
  · rw [CommandName.flags, probe, Except.map, List.nil_append, isProbe]
  · rw [CommandName.flags, symbols, Except.map, List.nil_append, isSymbols]

end Command

end PortableC
