import PortableC.Text.Blank
import PortableC.Text.Identifier

namespace PortableC.Source

/-! The tokens of a source text, as a compiler of the C family takes them.

A word is a longest run of letters, digits and underscores.  Comments and blanks
vanish, and the end of a line is a token of its own, since directives and the
lines of declarations are told apart by it.  The scanner reads one character at a
time, so the tokens of a text are put together from those of its parts.
-/

open Text (isBlank isIdentifierPart isWord)

inductive Token where
  | word (text : String)
  /-- A word with `#` in front, as in `#define`. -/
  | directive (text : String)
  /-- What a string or a character literal has between its quotes. -/
  | literal (text : String)
  | sign (char : Char)
  | newline
deriving DecidableEq, Repr

/-- What the scanner is in the middle of.  Characters are kept latest first. -/
inductive Mode where
  | between
  | word (written : List Char)
  /-- After a slash that may open a comment. -/
  | slash
  | lineComment
  | comment (afterStar : Bool)
  | literal (closing : Char) (written : List Char) (escaped : Bool)
deriving DecidableEq, Repr

def wordToken (written : List Char) : Token :=
  let text := String.ofList written.reverse
  if written.getLast? = some '#' then .directive text else .word text

def start (char : Char) : List Token × Mode :=
  if isIdentifierPart char || char == '#' then ([], .word [char])
  else if char == '/' then ([], .slash)
  else if char == '"' || char == '\'' then ([], .literal char [] false)
  else if char == '\n' then ([.newline], .between)
  else if isBlank char then ([], .between)
  else ([.sign char], .between)

/-- The tokens that a character completes, and what comes after it. -/
def step : Mode → Char → List Token × Mode
  | .between, char => start char
  | .word written, char =>
      if isIdentifierPart char then ([], .word (char :: written))
      else (wordToken written :: (start char).1, (start char).2)
  | .slash, char =>
      if char == '/' then ([], .lineComment)
      else if char == '*' then ([], .comment false)
      else (.sign '/' :: (start char).1, (start char).2)
  | .lineComment, char =>
      if char == '\n' then ([.newline], .between) else ([], .lineComment)
  | .comment afterStar, char =>
      if afterStar && char == '/' then ([], .between) else ([], .comment (char == '*'))
  | .literal closing written escaped, char =>
      if escaped then ([], .literal closing (char :: written) false)
      else if char == closing then ([.literal (String.ofList written.reverse)], .between)
      else ([], .literal closing (char :: written) (char == '\\'))

def Mode.close : Mode → List Token
  | .word written => [wordToken written]
  | .slash => [.sign '/']
  | _ => []

/-- The tokens that a text completes, and what the scanner is in the middle of after
it. -/
def run : Mode → List Char → List Token × Mode
  | mode, [] => ([], mode)
  | mode, char :: rest =>
      ((step mode char).1 ++ (run (step mode char).2 rest).1, (run (step mode char).2 rest).2)

def scan (mode : Mode) (text : List Char) : List Token :=
  (run mode text).1 ++ (run mode text).2.close

def tokens (text : List Char) : List Token :=
  scan .between text

variable {mode : Mode} {char next : Char} {written part rest : List Char}

theorem scan_cons :
    scan mode (char :: rest) = (step mode char).1 ++ scan (step mode char).2 rest := by
  simp [scan, run]

theorem scan_append (first : List Char) :
    scan mode (first ++ rest) = (run mode first).1 ++ scan (run mode first).2 rest := by
  induction first generalizing mode with
  | nil => rfl
  | cons char first induction =>
      simp only [List.cons_append, scan_cons, run, induction, List.append_assoc]

/-- A text that leaves nothing open has its tokens whatever follows. -/
theorem tokens_append {first : List Char} {completed : List Token}
    (closed : run .between first = (completed, .between)) :
    tokens (first ++ rest) = completed ++ tokens rest := by
  simp only [tokens, scan_append, closed]

@[simp] theorem tokens_nil : tokens [] = [] := rfl

def isSign (char : Char) : Bool :=
  start char == ([.sign char], .between)

theorem tokens_sign (isSign_char : isSign char = true) :
    tokens (char :: rest) = .sign char :: tokens rest := by
  have started : start char = ([.sign char], .between) := eq_of_beq isSign_char
  simp [tokens, scan_cons, step, started]

@[simp] theorem tokens_newline : tokens ('\n' :: rest) = .newline :: tokens rest := rfl

@[simp] theorem tokens_space : tokens (' ' :: rest) = tokens rest := rfl

theorem scan_word (parts : ∀ char ∈ part, isIdentifierPart char = true) :
    scan (.word written) (part ++ rest) = scan (.word (part.reverse ++ written)) rest := by
  induction part generalizing written with
  | nil => rfl
  | cons char part induction =>
      have isPart := parts char List.mem_cons_self
      simp only [List.cons_append, scan_cons, step, isPart, ↓reduceIte, List.nil_append]
      rw [induction fun char member => parts char (List.mem_cons_of_mem _ member)]
      simp

theorem scan_word_break (isBreak : isIdentifierPart next = false) :
    scan (.word written) (next :: rest) = wordToken written :: tokens (next :: rest) := by
  simp [tokens, scan_cons, step, isBreak]

theorem isIdentifierPart_of_isWord {word : List Char} (isWord_word : isWord word = true) :
    ∀ char ∈ word, isIdentifierPart char = true := by
  cases word with
  | nil => simp
  | cons first rest =>
      simp only [isWord, Bool.and_eq_true, List.all_eq_true] at isWord_word
      have ofStart := Text.isIdentifierPart_of_isIdentifierStart isWord_word.1
      simpa [ofStart] using isWord_word.2

/-- Names and numbers: texts that are one word each. -/
structure IsRun (text : String) : Prop where
  filled : text.toList ≠ []
  parts : ∀ char ∈ text.toList, isIdentifierPart char = true

theorem isRun_of_isWord {word : String} (isWord_word : isWord word.toList = true) :
    IsRun word where
  filled := by
    rintro empty
    simp [empty, isWord] at isWord_word
  parts := isIdentifierPart_of_isWord isWord_word

theorem IsRun.append {left right : String} (isRun_left : IsRun left) (isRun_right : IsRun right) :
    IsRun (left ++ right) where
  filled := by simp [isRun_left.filled]
  parts := by
    rw [String.toList_append]
    exact List.forall_mem_append.mpr ⟨isRun_left.parts, isRun_right.parts⟩

theorem tokens_run {word : String} (isRun : IsRun word)
    (isBreak : isIdentifierPart next = false) :
    tokens (word.toList ++ next :: rest) = .word word :: tokens (next :: rest) := by
  cases found : word.toList with
  | nil => exact absurd found isRun.filled
  | cons first others =>
      have parts := isRun.parts
      rw [found] at parts
      have firstPart := parts first List.mem_cons_self
      have notHash : first ≠ '#' := by
        rintro rfl
        exact absurd firstPart (by decide)
      have othersParts : ∀ char ∈ others, isIdentifierPart char = true :=
        fun char member => parts char (List.mem_cons_of_mem _ member)
      have started : start first = ([], .word [first]) := by simp [start, firstPart]
      have whole : String.ofList (first :: others) = word := by
        rw [← found, String.ofList_toList]
      have scanned : tokens (first :: (others ++ next :: rest)) =
          scan (.word [first]) (others ++ next :: rest) := by
        simp [tokens, scan_cons, step, started]
      rw [List.cons_append, scanned, scan_word othersParts, scan_word_break isBreak]
      simp [wordToken, notHash, whole]

theorem tokens_word {word : String} (isWord_word : isWord word.toList = true)
    (isBreak : isIdentifierPart next = false) :
    tokens (word.toList ++ next :: rest) = .word word :: tokens (next :: rest) :=
  tokens_run (isRun_of_isWord isWord_word) isBreak

/-- A text that ends the word in front of it, has these tokens, and leaves nothing
open. -/
def EndsWord (text : String) (completed : List Token) : Prop :=
  ∃ next behind, text.toList = next :: behind ∧ isIdentifierPart next = false ∧
    run .between (next :: behind) = (completed, .between)

theorem tokens_run_append {word text : String} {completed : List Token} (isRun : IsRun word)
    (endsWord : EndsWord text completed) :
    tokens (word.toList ++ (text.toList ++ rest)) = .word word :: completed ++ tokens rest := by
  obtain ⟨next, behind, chars, isBreak, ran⟩ := endsWord
  rw [chars, List.cons_append, tokens_run isRun isBreak, ← List.cons_append, tokens_append ran]
  rfl

theorem scan_comment (noStar : '*' ∉ part) :
    scan (.comment false) (part ++ rest) = scan (.comment false) rest := by
  induction part with
  | nil => rfl
  | cons char part induction =>
      have notStar : char ≠ '*' := fun same => noStar (same ▸ List.mem_cons_self)
      simp only [List.cons_append, scan_cons, step, Bool.false_and, Bool.false_eq_true,
        ↓reduceIte, beq_eq_false_iff_ne.mpr notStar, List.nil_append]
      exact induction fun member => noStar (List.mem_cons_of_mem _ member)

/-- The text has these tokens in front of any character that ends a word. -/
def Reads (text : List Char) (read : List Token) : Prop :=
  ∀ next rest, isIdentifierPart next = false →
    tokens (text ++ next :: rest) = read ++ tokens (next :: rest)

theorem reads_word {word : String} (isWord_word : isWord word.toList = true) :
    Reads word.toList [.word word] :=
  fun _ _ isBreak => tokens_word isWord_word isBreak

theorem reads_signs (signs : List Char) (areSigns : ∀ char ∈ signs, isSign char = true) :
    Reads signs (signs.map .sign) := by
  intro next rest isBreak
  induction signs with
  | nil => rfl
  | cons char signs induction =>
      rw [List.cons_append, tokens_sign (areSigns char List.mem_cons_self),
        induction fun char member => areSigns char (List.mem_cons_of_mem _ member)]
      rfl

theorem reads_joined {pieces : List (List Char × List Token)}
    (each : ∀ piece ∈ pieces, Reads piece.1 piece.2) :
    Reads ([',', ' '].intercalate (pieces.map Prod.fst))
      ([.sign ','].intercalate (pieces.map Prod.snd)) := by
  intro next rest isBreak
  induction pieces with
  | nil => rfl
  | cons piece others induction =>
      have first := each piece List.mem_cons_self
      have remaining := induction fun piece member => each piece (List.mem_cons_of_mem _ member)
      cases others with
      | nil => simpa using first next rest isBreak
      | cons second others =>
          simp only [List.map_cons, List.intercalate_cons_cons, List.append_assoc] at remaining ⊢
          rw [List.cons_append, first ',' _ (by decide), tokens_sign (by decide)]
          simp only [tokens_space, remaining, List.cons_append, List.nil_append]

theorem reads_words {words : List String} (areWords : ∀ word ∈ words, isWord word.toList = true) :
    Reads ([' '].intercalate (words.map String.toList)) (words.map .word) := by
  intro next rest isBreak
  induction words with
  | nil => rfl
  | cons word others induction =>
      have isWord_word := areWords word List.mem_cons_self
      have remaining := induction fun word member => areWords word (List.mem_cons_of_mem _ member)
      cases others with
      | nil => simpa using tokens_word isWord_word isBreak
      | cons second others =>
          simp only [List.map_cons, List.intercalate_cons_cons, List.append_assoc,
            List.cons_append, List.nil_append] at remaining ⊢
          rw [tokens_word isWord_word (by decide), tokens_space, remaining]

/-- The text has these tokens as one line or as several, whatever comes below. -/
def ReadsLine (text : List Char) (read : List Token) : Prop :=
  ∀ rest, tokens (text ++ '\n' :: rest) = read ++ .newline :: tokens rest

theorem readsLine_of_run {text : List Char} {read : List Token}
    (ran : run .between text = (read, .between)) : ReadsLine text read := by
  intro rest
  rw [tokens_append ran, tokens_newline]

abbrev Readings := List (String × List Token)

namespace Readings

def text (readings : Readings) : String :=
  String.join (readings.map fun reading => reading.1 ++ "\n")

theorem text_append (first second : Readings) :
    text (first ++ second) = text first ++ text second := by
  simp [text, String.join_append]

/-- The tokens of each line are those that are listed with it. -/
def Faithful (readings : Readings) : Prop :=
  ∀ reading ∈ readings, ReadsLine reading.1.toList reading.2

theorem Faithful.tokens_text {readings : Readings} (faithful : readings.Faithful)
    (rest : List Char) :
    tokens (readings.text.toList ++ rest) =
      readings.flatMap (fun reading => reading.2 ++ [Token.newline]) ++ tokens rest := by
  induction readings with
  | nil => rfl
  | cons reading readings induction =>
      have chars : (Readings.text (reading :: readings)).toList ++ rest =
          reading.1.toList ++ '\n' :: ((Readings.text readings).toList ++ rest) := by
        simp [text]
      rw [chars, faithful reading List.mem_cons_self,
        induction fun reading member => faithful reading (List.mem_cons_of_mem _ member)]
      simp

end Readings

def lines (text : List Char) : List (List Token) :=
  (tokens text).splitOn .newline

/-- The lines that a word is on, comments and literals aside. -/
def linesWith (word : String) (text : List Char) : List (List Token) :=
  (lines text).filter (·.contains (.word word))

/-- A line that is written with nothing else on it is one of the lines. -/
theorem mem_lines_of_tokens {text : List Char} {before line after : List Token}
    (single : .newline ∉ line)
    (read : tokens text = before ++ .newline :: line ++ .newline :: after) :
    line ∈ lines text := by
  have unbroken : ∀ token ∈ line, (token == .newline) = false := fun token member =>
    beq_eq_false_iff_ne.mpr fun same => single (same ▸ member)
  have front : (before ++ .newline :: (line ++ .newline :: after)).splitOn .newline =
      before.splitOn .newline ++ (line ++ .newline :: after).splitOn .newline :=
    List.splitOnP_append_cons _ _ (beq_self_eq_true _)
  have cut : (line ++ .newline :: after).splitOn .newline = line :: after.splitOn .newline :=
    List.splitOnP_append_cons_of_forall_mem unbroken _ (beq_self_eq_true _) _
  rw [lines, read, List.append_assoc, List.cons_append, front, cut]
  simp

theorem Readings.Faithful.lines_text {readings : Readings} (faithful : readings.Faithful)
    (single : ∀ reading ∈ readings, .newline ∉ reading.2) :
    lines readings.text.toList = readings.map Prod.snd ++ [[]] := by
  have read := faithful.tokens_text []
  simp only [List.append_nil, tokens_nil] at read
  rw [lines, read]
  clear read faithful
  induction readings with
  | nil => rfl
  | cons reading readings induction =>
      have others := induction fun reading member => single reading (List.mem_cons_of_mem _ member)
      have unbroken : ∀ token ∈ reading.2, (token == .newline) = false := fun token member =>
        beq_eq_false_iff_ne.mpr fun same => single reading List.mem_cons_self (same ▸ member)
      simp only [List.flatMap_cons, List.append_assoc, List.cons_append, List.nil_append,
        List.map_cons, ← others]
      exact List.splitOnP_append_cons_of_forall_mem unbroken _ (beq_self_eq_true _) _

end PortableC.Source
