import PortableC.CommandLine
import PortableC.Proofs.Checks

namespace PortableC

/-! Scans of one command's flags among those of another.

A command that takes more flags reads the words of a simpler one in the same way, also behind
flags that the simpler one does not know: whether a flag is accepted depends on earlier flags
of its own kind only.
-/

namespace Given

variable {flags : List Flag} {flag : Flag} {front given : List Given}

def Within (flags : List Flag) (given : List Given) : Prop :=
  ∀ one ∈ given, one.flag ∈ flags

def Outside (flags : List Flag) (given : List Given) : Prop :=
  ∀ one ∈ given, one.flag ∉ flags

theorem values_eq_nil (absent : ∀ one ∈ given, one.flag ≠ flag) : values flag given = [] := by
  have nothing : given.filter (·.flag == flag) = [] :=
    List.filter_eq_nil_iff.mpr fun one member => by simpa using absent one member
  rw [values, nothing, List.filterMap_nil]

theorem has_eq_false (absent : ∀ one ∈ given, one.flag ≠ flag) : has flag given = false :=
  List.any_eq_false.mpr fun one member => by simpa using absent one member

theorem values_behind (absent : ∀ one ∈ front, one.flag ≠ flag) :
    values flag (front ++ given) = values flag given := by
  have nothing := values_eq_nil absent
  rw [values] at nothing ⊢
  rw [List.filter_append, List.filterMap_append, nothing, List.nil_append, values]

theorem has_behind (absent : ∀ one ∈ front, one.flag ≠ flag) :
    has flag (front ++ given) = has flag given := by
  have nothing := has_eq_false absent
  rw [has] at nothing ⊢
  rw [List.any_append, nothing, Bool.false_or, has]

end Given

namespace Scan

open Given (Outside Within)

variable {flags : List Flag} {front given after : List Given} {next : Given}
variable {flag : Flag} {scan taken : Scan} {word : String}

theorem accept_made (accepted : accept given next = .ok after) : after = given ++ [next] := by
  rw [accept] at accepted
  split at accepted
  next => cases accepted
  next =>
    split at accepted
    next => cases accepted
    next =>
      split at accepted
      next => cases accepted
      next => exact (Except.ok.inj accepted).symm

theorem accept_behind (absent : ∀ one ∈ front, one.flag ≠ next.flag) :
    accept (front ++ given) next = (accept given next).map (front ++ ·) := by
  have same : (front ++ given).any (·.flag == next.flag) = given.any (·.flag == next.flag) :=
    Given.has_behind absent
  rw [accept, accept, same]
  split
  next => rfl
  next =>
    split
    next => rfl
    next =>
      split
      next => rfl
      next => rw [Except.map, List.append_assoc]

/-- What one word does to a scan, unless it ends the flags. -/
def takeWord (flags : List Flag) (scan : Scan) (word : String) : Except Usage Scan :=
  match WordForm.of word with
  | .separator => .error .unknownArgument
  | .long name value =>
      match flags.find? (·.longName == name) with
      | none => .error .unknownArgument
      | some flag => scan.addFlag flag value
  | .cluster letter attached =>
      match flags.find? (·.letter? == some letter) with
      | none => .error .unknownArgument
      | some flag =>
          if flag.takesValue then scan.addOption flag (attachedValue attached)
          else scan.addSwitch flag
  | .plain => scan.addPlain word

theorem words_separator {rest : List String} (ends : WordForm.of word = .separator) :
    Scan.words flags scan (word :: rest) =
      if rest.isEmpty then scan.settle else .error .unknownArgument := by
  rw [words, ends]

theorem words_cons {rest : List String} (notEnd : WordForm.of word ≠ .separator) :
    Scan.words flags scan (word :: rest) =
      scan.takeWord flags word >>= fun taken => Scan.words flags taken rest := by
  rw [words, takeWord]
  cases form : WordForm.of word with
  | separator => exact absurd form notEnd
  | long name value =>
      dsimp only
      cases flags.find? (·.longName == name) <;> rfl
  | cluster letter attached =>
      dsimp only
      cases flags.find? (·.letter? == some letter) with
      | none => rfl
      | some flag =>
          dsimp only
          split <;> rfl
  | plain => rfl

theorem words_taken {rest : List String} (notEnd : WordForm.of word ≠ .separator)
    (read : scan.takeWord flags word = .ok taken) :
    Scan.words flags scan (word :: rest) = Scan.words flags taken rest := by
  rw [words_cons notEnd, read]
  rfl

/-- The flags of a scan, the one that is pending included, are among these. -/
structure Knows (flags : List Flag) (scan : Scan) : Prop where
  given : Within flags scan.given
  pending : ∀ one ∈ scan.pending, one.flag ∈ flags

/-- The same scan with flags in front. -/
def behind (front : List Given) (scan : Scan) : Scan :=
  { scan with given := front ++ scan.given }

section
variable (apart : Outside flags front)
include apart

theorem accept_known (known : Within flags given) (listed : next.flag ∈ flags)
    (accepted : accept given next = .ok after) :
    accept (front ++ given) next = .ok (front ++ after) ∧ Within flags after := by
  have absent : ∀ one ∈ front, one.flag ≠ next.flag := by
    rintro one member same
    exact apart one member (same ▸ listed)
  refine ⟨by rw [accept_behind absent, accepted, Except.map], ?_⟩
  rw [accept_made accepted]
  exact List.forall_mem_append.mpr ⟨known, List.forall_mem_singleton.mpr listed⟩

theorem settle_behind (known : scan.Knows flags) (settled : scan.settle = .ok given) :
    (scan.behind front).settle = .ok (front ++ given) ∧ Within flags given := by
  obtain ⟨earlier, pending⟩ := scan
  cases pending with
  | none =>
      cases settled
      exact ⟨rfl, known.given⟩
  | some next => exact accept_known apart known.given (known.pending next rfl) settled

theorem addOption_behind (value : Option String) (known : scan.Knows flags)
    (listed : flag ∈ flags) (added : scan.addOption flag value = .ok taken) :
    (scan.behind front).addOption flag value = .ok (taken.behind front) ∧ taken.Knows flags := by
  obtain ⟨given, settled, others⟩ := bind_eq_ok_iff.mp added
  obtain ⟨settledBehind, within⟩ := settle_behind apart known settled
  rw [addOption, settledBehind]
  cases value with
  | none =>
      cases others
      exact ⟨rfl, within, fun one isPending => by cases isPending; exact listed⟩
  | some value =>
      obtain ⟨after, accepted, same⟩ := bind_eq_ok_iff.mp others
      cases same
      obtain ⟨acceptedBehind, withinAfter⟩ := accept_known apart within listed accepted
      refine ⟨?_, withinAfter, fun _ isPending => by cases isPending⟩
      exact bind_eq_ok_iff.mpr ⟨_, rfl, bind_eq_ok_iff.mpr ⟨_, acceptedBehind, rfl⟩⟩

theorem addSwitch_behind (known : scan.Knows flags) (listed : flag ∈ flags)
    (added : scan.addSwitch flag = .ok taken) :
    (scan.behind front).addSwitch flag = .ok (taken.behind front) ∧ taken.Knows flags := by
  obtain ⟨given, settled, others⟩ := bind_eq_ok_iff.mp added
  obtain ⟨settledBehind, within⟩ := settle_behind apart known settled
  by_cases isHelp : flag = .help
  · rw [if_pos isHelp] at others
    cases others
  · rw [if_neg isHelp] at others
    obtain ⟨after, accepted, same⟩ := bind_eq_ok_iff.mp others
    cases same
    obtain ⟨acceptedBehind, withinAfter⟩ := accept_known apart within listed accepted
    refine ⟨bind_eq_ok_iff.mpr ⟨_, settledBehind, ?_⟩, withinAfter, fun _ isPending => ?_⟩
    · rw [if_neg isHelp]
      exact bind_eq_ok_iff.mpr ⟨_, acceptedBehind, rfl⟩
    · cases isPending

theorem addFlag_behind {value : Option String} (known : scan.Knows flags)
    (listed : flag ∈ flags) (added : scan.addFlag flag value = .ok taken) :
    (scan.behind front).addFlag flag value = .ok (taken.behind front) ∧ taken.Knows flags := by
  rw [addFlag] at added ⊢
  split at added
  next isOption =>
    rw [if_pos isOption]
    exact addOption_behind apart value known listed added
  next isSwitch =>
    rw [if_neg isSwitch]
    split at added
    next => cases added
    next bare =>
      rw [if_neg bare]
      exact addSwitch_behind apart known listed added

omit apart in
theorem addPlain_behind (known : scan.Knows flags) (added : scan.addPlain word = .ok taken) :
    (scan.behind front).addPlain word = .ok (taken.behind front) ∧ taken.Knows flags := by
  obtain ⟨given, pending⟩ := scan
  match pending, known, added with
  | some { flag, value := none }, known, added =>
      cases added
      refine ⟨rfl, known.given, fun one isPending => ?_⟩
      cases isPending
      exact known.pending { flag } rfl

/-- A command with more flags takes a word in the same way, also behind other flags. -/
theorem takeWord_behind (more : List Flag) (known : scan.Knows flags)
    (read : scan.takeWord flags word = .ok taken) :
    (scan.behind front).takeWord (flags ++ more) word = .ok (taken.behind front) ∧
      taken.Knows flags := by
  rw [takeWord] at read ⊢
  split at read
  next => cases read
  next name value form =>
    split at read
    next => cases read
    next flag found =>
      rw [List.find?_append, found, Option.some_or]
      exact addFlag_behind apart known (List.mem_of_find?_eq_some found) read
  next letter attached form =>
    split at read
    next => cases read
    next flag found =>
      have listed := List.mem_of_find?_eq_some found
      rw [List.find?_append, found, Option.some_or]
      split at read
      next isOption =>
        simp only [isOption, if_true]
        exact addOption_behind apart _ known listed read
      next isSwitch =>
        simp only [isSwitch]
        exact addSwitch_behind apart known listed read
  next => exact addPlain_behind known read

/-- So it takes all words in the same way, as long as the simpler command takes them. -/
theorem words_behind (more : List Flag) {words : List String} (known : scan.Knows flags)
    (read : Scan.words flags scan words = .ok given) :
    Scan.words (flags ++ more) (scan.behind front) words = .ok (front ++ given) ∧
      Within flags given := by
  -- What each word leaves behind has known flags only, so the next one can be taken too.
  induction words generalizing scan with
  | nil => exact settle_behind apart known read
  | cons word rest induction =>
      by_cases ends : WordForm.of word = .separator
      · rw [words_separator ends] at read ⊢
        by_cases last : rest.isEmpty
        · rw [if_pos last] at read ⊢
          exact settle_behind apart known read
        · rw [if_neg last] at read
          cases read
      · rw [words_cons ends] at read
        obtain ⟨taken, takenWord, others⟩ := bind_eq_ok_iff.mp read
        obtain ⟨takenBehind, knownToo⟩ := takeWord_behind apart more known takenWord
        rw [words_taken ends takenBehind]
        exact induction knownToo others

end

/-- An option that has its value is settled whatever comes next. -/
theorem words_pending {words : List String} {value : String}
    (accepted : accept given { flag, value := some value } = .ok after) :
    Scan.words flags { given, pending := some { flag, value := some value } } words =
      Scan.words flags { given := after } words := by
  have settled : settle { given, pending := some { flag, value := some value } } =
      settle { given := after } := accepted
  cases words with
  | nil => exact settled
  | cons word rest =>
      by_cases ends : WordForm.of word = .separator
      · rw [words_separator ends, words_separator ends, settled]
      · rw [words_cons ends, words_cons ends, takeWord, takeWord]
        simp only [addFlag, addOption, addSwitch, settled]
        rfl

end Scan

end PortableC
