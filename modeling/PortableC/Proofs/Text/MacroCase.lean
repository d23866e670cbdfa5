import Mathlib
import PortableC.Proofs.Text.Joined
import PortableC.Proofs.Text.Run
import PortableC.Text.MacroCase

namespace PortableC.Text

/-! Macro case word by word.

The words of a text are its runs of letters and digits, cut where a capital follows a small
letter or a digit.  What the one pass over the text writes are these words in capitals, with an
underscore between any two.
-/

section
variable {α : Type} {related : α → α → Bool}

/-- An item that is related to the next one goes into its group. -/
theorem splitBy_cons_related {first second : α} (same : related first second = true)
    (rest : List α) :
    (first :: second :: rest).splitBy related =
      ((second :: rest).splitBy related).modifyHead (first :: ·) := by
  cases cut : (second :: rest).splitBy related with
  | nil => exact absurd (List.splitBy_eq_nil.mp cut) (List.cons_ne_nil _ _)
  | cons group groups =>
      obtain ⟨whole, filled, within, apart⟩ := List.splitBy_eq_iff.mp cut
      obtain ⟨filledGroup, filledGroups⟩ := not_or.mp (List.mem_cons.not.mp filled)
      cases group with
      | nil => exact absurd rfl filledGroup
      | cons head group =>
          obtain ⟨rfl, _⟩ := List.cons.inj (whole.trans List.flatten_cons)
          rw [List.modifyHead_cons, List.splitBy_eq_iff]
          refine ⟨by rw [whole]; simp, by simpa using filledGroups, ?_, ?_⟩
          · rw [List.forall_mem_cons] at within ⊢
            exact ⟨within.1.cons fun next isNext => by
              obtain rfl : second = next := Option.some.inj isNext
              exact same, within.2⟩
          · rw [List.isChain_cons] at apart ⊢
            refine ⟨fun next isNext => ?_, apart.2⟩
            obtain ⟨_, filledNext, ends⟩ := apart.1 next isNext
            exact ⟨List.cons_ne_nil _ _, filledNext, ends⟩

end

namespace MacroCase

/-- Whether a capital behind this character begins a word. -/
def isSmall (char : Char) : Bool :=
  char.isLower || char.isDigit

/-- Whether a letter or digit belongs to the word of the one before it. -/
def continues (before char : Char) : Bool :=
  !(char.isUpper && isSmall before)

/-- The longest runs of letters and digits. -/
def runs (text : List Char) : List (List Char) :=
  (text.splitOnP fun char => !char.isAlphanum).filter (!·.isEmpty)

def words (text : List Char) : List (List Char) :=
  (runs text).flatMap (List.splitBy continues)

/-- The words in capitals, with an underscore between any two. -/
def joined (words : List (List Char)) : List Char :=
  ['_'].intercalate (words.map (List.map Char.toUpper))

/-! The words of a text, from its first character on. -/

variable {char : Char} {rest : List Char}

theorem words_break (break_ : char.isAlphanum = false) (rest : List Char) :
    words (char :: rest) = words rest := by
  have cut : (!char.isAlphanum) = true := by rw [break_]; rfl
  rw [words, runs, List.splitOnP_cons_eq_if_modifyHead, if_pos cut]
  rfl

theorem words_run {run : List Char} (letters : ∀ char ∈ run, char.isAlphanum = true)
    (stop : ∀ char ∈ rest.head?, char.isAlphanum = false) :
    words (run ++ rest) = run.splitBy continues ++ words rest := by
  have inside : ∀ char ∈ run, (!char.isAlphanum) = false := fun char member => by
    rw [letters char member]; rfl
  have alone : ([run].filter (!·.isEmpty)).flatMap (List.splitBy continues) =
      run.splitBy continues := by
    cases run <;> simp
  cases rest with
  | nil =>
      rw [List.append_nil, words, runs, List.splitOnP_eq_singleton inside, alone]
      exact (List.append_nil _).symm
  | cons char rest =>
      have break_ := stop char rfl
      have cut : (!char.isAlphanum) = true := by rw [break_]; rfl
      rw [words_break break_, words, runs,
        List.splitOnP_append_cons_of_forall_mem inside char cut, ← List.singleton_append,
        List.filter_append, List.flatMap_append, alone]
      rfl

/-- The run at the front of a text and what is behind it. -/
theorem exists_run (text : List Char) : ∃ run rest, text = run ++ rest ∧
    (∀ char ∈ run, char.isAlphanum = true) ∧ ∀ char ∈ rest.head?, char.isAlphanum = false := by
  refine ⟨text.takeWhile Char.isAlphanum, text.dropWhile Char.isAlphanum,
    List.takeWhile_append_dropWhile.symm, List.all_eq_true.mp List.all_takeWhile, ?_⟩
  intro char first
  have visible := List.head?_dropWhile_not Char.isAlphanum text
  rw [Option.mem_def.mp first] at visible
  exact visible

theorem words_ending (letter : char.isAlphanum = true)
    (ends : ∀ next ∈ rest.head?, next.isAlphanum = true → continues char next = false) :
    words (char :: rest) = [char] :: words rest := by
  obtain ⟨run, behind, rfl, letters, stop⟩ := exists_run rest
  have cut : ([char] ++ run).splitBy continues =
      [char].splitBy continues ++ run.splitBy continues := by
    refine List.splitBy_append fun last isLast next isNext => ?_
    obtain rfl : char = last := Option.some.inj isLast
    exact ends next (List.mem_head?_append_of_mem_head? isNext)
      (letters next (List.mem_of_head? isNext))
  rw [← List.cons_append, words_run (List.forall_mem_cons.mpr ⟨letter, letters⟩) stop,
    words_run letters stop, ← List.singleton_append, cut]
  rfl

theorem words_continued {next : Char} (letter : char.isAlphanum = true)
    (nextLetter : next.isAlphanum = true) (same : continues char next = true) :
    words (char :: next :: rest) = (words (next :: rest)).modifyHead (char :: ·) := by
  obtain ⟨run, behind, rfl, letters, stop⟩ := exists_run rest
  have nextLetters : ∀ char ∈ next :: run, char.isAlphanum = true :=
    List.forall_mem_cons.mpr ⟨nextLetter, letters⟩
  have filled : (next :: run).splitBy continues ≠ [] := by simp
  rw [← List.cons_append, ← List.cons_append,
    words_run (List.forall_mem_cons.mpr ⟨letter, nextLetters⟩) stop, words_run nextLetters stop,
    splitBy_cons_related same]
  cases cut : (next :: run).splitBy continues with
  | nil => exact absurd cut filled
  | cons group groups => rfl

theorem words_ne_nil (letter : char.isAlphanum = true) (rest : List Char) :
    words (char :: rest) ≠ [] := by
  obtain ⟨run, behind, rfl, letters, stop⟩ := exists_run rest
  rw [← List.cons_append, words_run (List.forall_mem_cons.mpr ⟨letter, letters⟩) stop]
  simp

/-! What the pass over the text writes. -/

/-- The words in capitals, each behind an underscore. -/
def underscored (words : List (List Char)) : List Char :=
  words.flatMap fun word => '_' :: word.map Char.toUpper

theorem joined_cons (word : List Char) (others : List (List Char)) :
    joined (word :: others) = word.map Char.toUpper ++ underscored others := by
  rw [joined, List.map_cons, intercalate_cons, List.flatMap_map]
  rfl

theorem joined_modifyHead (char : Char) {words : List (List Char)} (filled : words ≠ []) :
    joined (words.modifyHead (char :: ·)) = char.toUpper :: joined words := by
  cases words with
  | nil => exact absurd rfl filled
  | cons word others => rw [List.modifyHead_cons, joined_cons, joined_cons]; rfl

theorem underscored_eq {words : List (List Char)} (filled : words ≠ []) :
    underscored words = '_' :: joined words := by
  cases words with
  | nil => exact absurd rfl filled
  | cons word others => rw [underscored, List.flatMap_cons, joined_cons]; rfl

theorem joined_ending (letter : char.isAlphanum = true)
    (ends : ∀ next ∈ rest.head?, next.isAlphanum = true → continues char next = false) :
    joined (words (char :: rest)) = char.toUpper :: underscored (words rest) := by
  rw [words_ending letter ends, joined_cons]
  rfl

theorem joined_break {next : Char} (letter : char.isAlphanum = true)
    (break_ : next.isAlphanum = false) (rest : List Char) :
    joined (words (char :: next :: rest)) = char.toUpper :: underscored (words rest) := by
  have ends : ∀ other ∈ (next :: rest).head?, other.isAlphanum = true →
      continues char other = false := by
    rintro _ ⟨⟩ isLetter
    rw [break_] at isLetter
    cases isLetter
  rw [joined_ending letter ends, words_break break_]

theorem joined_letter {next : Char} (letter : char.isAlphanum = true)
    (nextLetter : next.isAlphanum = true) (rest : List Char) :
    joined (words (char :: next :: rest)) =
      char.toUpper ::
        if continues char next then joined (words (next :: rest))
        else '_' :: joined (words (next :: rest)) := by
  have filled := words_ne_nil nextLetter rest
  cases same : continues char next with
  | true => rw [if_pos rfl, words_continued letter nextLetter same, joined_modifyHead char filled]
  | false =>
      have ends : ∀ other ∈ (next :: rest).head?, other.isAlphanum = true →
          continues char other = false := by
        rintro _ ⟨⟩ _
        exact same
      rw [if_neg Bool.false_ne_true, joined_ending letter ends, underscored_eq filled]

theorem toUpper_of_isDigit (digit : char.isDigit = true) : char.toUpper = char := by
  refine Char.toUpper_eq_of_not_isLower fun lower => ?_
  simp [Char.isDigit, Char.isLower, UInt32.le_iff_toNat_le] at digit lower
  omega

theorem toUpper_class (letter : char.isAlphanum = true) :
    char.toUpper.isUpper = true ∨ char.toUpper.isDigit = true := by
  rw [Char.isUpper_toUpper_eq_isAlpha]
  rcases (Bool.or_eq_true _ _).mp letter with alpha | digit
  · exact .inl alpha
  · rw [toUpper_of_isDigit digit]
    exact .inr digit

theorem toUpper_ne_underscore (letter : char.isAlphanum = true) : char.toUpper ≠ '_' := by
  intro same
  have classes := toUpper_class letter
  rw [same] at classes
  exact absurd classes (by decide)

/-- The name when the text ends here. -/
def Progress.name (progress : Progress) : List Char :=
  (progress.written.dropWhile (· == '_')).reverse

theorem separate_of_ne {latest : Char} (other : latest ≠ '_') (before : List Char) :
    separate (latest :: before) = '_' :: latest :: before := by
  rw [separate]
  · exact nofun
  · intro behind same
    exact other (List.cons.inj same).1

theorem step_break (break_ : char.isAlphanum = false) (progress : Progress) :
    step progress char = { written := separate progress.written } :=
  if_neg (Bool.eq_false_iff.mp break_)

theorem step_letter (letter : char.isAlphanum = true) {last : Char}
    (lastLetter : last.isAlphanum = true) (before : List Char) :
    step ⟨last.toUpper :: before, isSmall last⟩ char =
      ⟨char.toUpper ::
        if continues last char then last.toUpper :: before else '_' :: last.toUpper :: before,
        isSmall char⟩ := by
  rw [step, if_pos letter, separate_of_ne (toUpper_ne_underscore lastLetter), continues]
  cases char.isUpper && isSmall last <;> rfl

theorem step_first (letter : char.isAlphanum = true) (written : List Char) :
    step ⟨written, false⟩ char = ⟨char.toUpper :: written, isSmall char⟩ := by
  rw [step, if_pos letter, Bool.and_false]
  rfl

/-- The name that comes about behind a letter or digit, and the one behind a separator. -/
theorem name_behind (rest : List Char) :
    (∀ last before, last.isAlphanum = true →
      (rest.foldl step ⟨last.toUpper :: before, isSmall last⟩).name =
        before.reverse ++ joined (words (last :: rest))) ∧
    ∀ before : List Char, (∀ char ∈ before.head?, char ≠ '_') →
      (rest.foldl step ⟨'_' :: before, false⟩).name =
        before.reverse ++ underscored (words rest) := by
  induction rest with
  | nil =>
      constructor
      · intro last before letter
        have other := toUpper_ne_underscore letter
        rw [joined_ending letter (by simp)]
        simp [Progress.name, other, words, runs, underscored]
      · intro before other
        have kept : before.dropWhile (· == '_') = before :=
          @dropWhile_run _ _ [] nofun before (by simpa using other)
        simp [Progress.name, kept, words, runs, underscored]
  | cons char rest induction =>
      obtain ⟨inside, between⟩ := induction
      constructor
      · intro last before letter
        have other := toUpper_ne_underscore letter
        rw [List.foldl_cons]
        cases isLetter : char.isAlphanum with
        | false =>
            rw [step_break isLetter, separate_of_ne other,
              between (last.toUpper :: before) (by simpa using other), joined_break letter isLetter]
            simp
        | true =>
            rw [step_letter isLetter letter, inside char _ isLetter, joined_letter letter isLetter]
            cases continues last char <;> simp
      · intro before other
        rw [List.foldl_cons]
        cases isLetter : char.isAlphanum with
        | false => rw [step_break isLetter, separate, between before other, words_break isLetter]
        | true =>
            rw [step_first isLetter, inside char _ isLetter,
              underscored_eq (words_ne_nil isLetter rest)]
            simp

theorem name_eq (text : List Char) : (text.foldl step {}).name = joined (words text) := by
  induction text with
  | nil => rfl
  | cons char rest induction =>
      rw [List.foldl_cons]
      cases isLetter : char.isAlphanum with
      | false => rw [step_break isLetter, separate, induction, words_break isLetter]
      | true =>
          rw [step_first isLetter]
          exact (name_behind rest).1 char [] isLetter

theorem shield_eq (name : List Char) :
    shield name = if name.head?.any Char.isDigit then '_' :: name else name := by
  cases name <;> rfl

theorem shield_cases (name : List Char) :
    shield name = name ∨
      ∃ digit rest, digit.isDigit = true ∧ name = digit :: rest ∧ shield name = '_' :: name := by
  cases name with
  | nil => exact .inl rfl
  | cons first rest =>
      cases digit : first.isDigit with
      | false => exact .inl (by rw [shield, digit]; rfl)
      | true => exact .inr ⟨first, rest, digit, rfl, by rw [shield, digit]; rfl⟩

/-! What there is in the words of a text. -/

theorem flatten_splitOnP {α : Type} (separates : α → Bool) (items : List α) :
    (items.splitOnP separates).flatten = items.filter fun item => !separates item := by
  induction items with
  | nil => rfl
  | cons item items induction =>
      rw [List.splitOnP_cons_eq_if_modifyHead, List.filter_cons]
      cases separates item with
      | true => exact induction
      | false =>
          cases cut : items.splitOnP separates with
          | nil => exact absurd cut (List.splitOnP_ne_nil separates items)
          | cons piece pieces =>
              rw [cut] at induction
              simp [← induction]

theorem flatten_words (text : List Char) : (words text).flatten = text.filter Char.isAlphanum := by
  have runs_flatten : (runs text).flatten = text.filter Char.isAlphanum := by
    rw [runs, List.flatten_filter_not_isEmpty, flatten_splitOnP]
    simp only [Bool.not_not]
  rw [words, List.flatMap, List.flatten_flatten, List.map_map, ← runs_flatten]
  congr 1
  exact List.map_id'' (List.flatten_splitBy continues) _

variable {text word : List Char}

theorem ne_nil_of_mem_words (listed : word ∈ words text) : word ≠ [] := by
  obtain ⟨run, _, inRun⟩ := List.mem_flatMap.mp listed
  exact List.ne_nil_of_mem_splitBy inRun

theorem isAlphanum_of_mem_words (listed : word ∈ words text) (member : char ∈ word) :
    char.isAlphanum = true := by
  have inText := List.mem_flatten_of_mem listed member
  rw [flatten_words] at inText
  exact (List.mem_filter.mp inText).2

theorem separated_joined (text : List Char) : Separated '_' (joined (words text)) := by
  refine separated_intercalate ?_ ?_
  · intro piece listed
    obtain ⟨word, inWords, rfl⟩ := List.mem_map.mp listed
    simpa using ne_nil_of_mem_words inWords
  · intro piece listed member
    obtain ⟨word, inWords, rfl⟩ := List.mem_map.mp listed
    obtain ⟨char, inWord, same⟩ := List.mem_map.mp member
    exact toUpper_ne_underscore (isAlphanum_of_mem_words inWords inWord) same

theorem joined_char (member : char ∈ joined (words text)) :
    char = '_' ∨ char.isUpper = true ∨ char.isDigit = true := by
  rcases mem_intercalate member with isSeparator | ⟨piece, listed, inPiece⟩
  · exact .inl (List.mem_singleton.mp isSeparator)
  · obtain ⟨word, inWords, rfl⟩ := List.mem_map.mp listed
    obtain ⟨letter, inWord, rfl⟩ := List.mem_map.mp inPiece
    exact .inr (toUpper_class (isAlphanum_of_mem_words inWords inWord))

theorem isAlphanum_toUpper (letter : char.isAlphanum = true) :
    char.toUpper.isAlphanum = true := by
  rw [Char.isAlphanum, Char.isAlpha]
  rcases toUpper_class letter with upper | digit
  · rw [upper]
    rfl
  · rw [digit, Bool.or_true]

theorem filter_map_toUpper (letters : ∀ char ∈ word, char.isAlphanum = true) :
    (word.map Char.toUpper).filter Char.isAlphanum = word.map Char.toUpper := by
  refine List.filter_eq_self.mpr fun char member => ?_
  obtain ⟨letter, inWord, rfl⟩ := List.mem_map.mp member
  exact isAlphanum_toUpper (letters letter inWord)

theorem filter_joined {words : List (List Char)}
    (letters : ∀ word ∈ words, ∀ char ∈ word, char.isAlphanum = true) :
    (joined words).filter Char.isAlphanum = words.flatten.map Char.toUpper := by
  cases words with
  | nil => rfl
  | cons word others =>
      obtain ⟨inWord, inOthers⟩ := List.forall_mem_cons.mp letters
      have behind : (underscored others).filter Char.isAlphanum =
          others.flatMap (List.map Char.toUpper) := by
        rw [underscored, List.filter_flatMap]
        refine List.flatMap_congr fun other listed => ?_
        rw [List.filter_cons_of_neg (by decide), filter_map_toUpper (inOthers other listed)]
      rw [joined_cons, List.filter_append, filter_map_toUpper inWord, behind, List.flatten_cons,
        List.map_append, List.map_flatten]
      rfl

theorem filter_joined_words (text : List Char) :
    (joined (words text)).filter Char.isAlphanum =
      (text.filter Char.isAlphanum).map Char.toUpper := by
  rw [filter_joined fun _ listed _ => isAlphanum_of_mem_words listed, flatten_words]

end MacroCase

theorem toList_macroCase (text : String) :
    (macroCase text).toList =
      MacroCase.shield (MacroCase.joined (MacroCase.words text.toList)) := by
  rw [← MacroCase.name_eq]
  exact String.toList_ofList

/-- Macro case is the words of a text in capitals, with an underscore between any two and one in
front of a digit at the start.  So it is written in capitals, digits and single underscores, none
of them at the end, and its letters and digits are those of the text. -/
theorem macroCase_joins_words (text : String) :
    let joined := ['_'].intercalate ((MacroCase.words text.toList).map (List.map Char.toUpper))
    let written := (macroCase text).toList
    written = (if joined.head?.any Char.isDigit then '_' :: joined else joined) ∧
    (∀ char ∈ written, char = '_' ∨ char.isUpper = true ∨ char.isDigit = true) ∧
    ¬ ['_', '_'] <:+: written ∧
    written.getLast? ≠ some '_' ∧
    (∀ rest, written = '_' :: rest → rest.head?.any Char.isDigit = true) ∧
    written.filter Char.isAlphanum = (text.toList.filter Char.isAlphanum).map Char.toUpper := by
  intro joined written
  have shielded : written = MacroCase.shield joined := toList_macroCase text
  have separated : Separated '_' joined := MacroCase.separated_joined text.toList
  have letters : joined.filter Char.isAlphanum =
      (text.toList.filter Char.isAlphanum).map Char.toUpper :=
    MacroCase.filter_joined_words text.toList
  refine ⟨shielded.trans (MacroCase.shield_eq joined), ?_⟩
  rcases MacroCase.shield_cases joined with bare | ⟨digit, rest, isDigit, cut, marked⟩
  · rw [shielded, bare]
    refine ⟨fun _ => MacroCase.joined_char, separated.not_infix,
      fun last => separated.ends '_' last rfl, fun rest begins => ?_, letters⟩
    exact absurd rfl (separated.begins '_' (by rw [begins]; rfl))
  · rw [shielded, marked]
    refine ⟨List.forall_mem_cons.mpr ⟨.inl rfl, fun _ => MacroCase.joined_char⟩,
      separated.not_infix_cons, fun last => ?_, fun behind same => ?_, letters⟩
    · rw [cut, List.getLast?_cons_cons, ← cut] at last
      exact separated.ends '_' last rfl
    · rw [← (List.cons.inj same).2, cut]
      exact isDigit

/-- A number in front, a capital behind a digit and one behind a capital. -/
example : MacroCase.words "9lives-v2Final.HTTPServer..h".toList =
    ["9lives".toList, "v2".toList, "Final".toList, "HTTPServer".toList, "h".toList] := by
  decide

end PortableC.Text
