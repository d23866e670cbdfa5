import Mathlib.Data.List.Basic
import PortableC.Text.Palette

namespace PortableC.Text

/-! What colours do to a text: they put parts of its lines between two escape sequences. -/

def escape : Char := '\x1b'

/-- The sequences that begin a colour. -/
def openings : List String := ["\x1b[35m", "\x1b[34m", "\x1b[2m"]

/-- The sequence that ends every colour. -/
def closing : String := "\x1b[0m"

def sequences : List String := openings ++ [closing]

/-- What is left without the patterns, when `count` characters still belong to one of them. -/
def deleting (patterns : List (List Char)) : Nat → List Char → List Char
  | _, [] => []
  | count + 1, _ :: rest => deleting patterns count rest
  | 0, char :: rest =>
      match patterns.find? (·.isPrefixOf (char :: rest)) with
      | some pattern => deleting patterns (pattern.length - 1) rest
      | none => char :: deleting patterns 0 rest

def withoutSequences (text : String) : String :=
  String.ofList (deleting (sequences.map String.toList) 0 text.toList)

/-- A colour that has begun ends here, before the next one begins and before the line ends. -/
def EndsColor (after : List Char) : Prop :=
  ∃ inside behind, after = inside ++ (closing.toList ++ behind) ∧ escape ∉ inside ∧
    '\n' ∉ inside

def ColorsEnd (colored : List Char) : Prop :=
  ∀ opening ∈ openings, ∀ before after, colored = before ++ (opening.toList ++ after) →
    EndsColor after

/-- The first text is the second with colours inside its lines. -/
inductive Colors : List Char → List Char → Prop
  | nil : Colors [] []
  | plain {front colored text : List Char} (visible : escape ∉ front)
      (rest : Colors colored text) : Colors (front ++ colored) (front ++ text)
  | span {opening : String} {inside colored text : List Char} (opens : opening ∈ openings)
      (visible : escape ∉ inside) (unbroken : '\n' ∉ inside) (rest : Colors colored text) :
      Colors (opening.toList ++ (inside ++ (closing.toList ++ colored))) (inside ++ text)

/-! Each sequence has one escape character, in front, and none begins with another one. -/

section sequences

variable {sequence other : String}

theorem mem_sequences_of_mem_openings (opens : sequence ∈ openings) : sequence ∈ sequences :=
  List.mem_append_left _ opens

theorem closing_mem_sequences : closing ∈ sequences :=
  List.mem_append_right _ List.mem_cons_self

theorem sequence_eq_cons (listed : sequence ∈ sequences) :
    ∃ tail, sequence.toList = escape :: tail ∧ escape ∉ tail := by
  have all : ∀ sequence ∈ sequences,
      sequence.toList = escape :: sequence.toList.tail ∧ escape ∉ sequence.toList.tail := by
    decide
  exact ⟨_, all sequence listed⟩

theorem sequence_unique {behind otherBehind : List Char} (listed : sequence ∈ sequences)
    (otherListed : other ∈ sequences)
    (same : sequence.toList ++ behind = other.toList ++ otherBehind) :
    sequence = other ∧ behind = otherBehind := by
  have apart : ∀ sequence ∈ sequences, ∀ other ∈ sequences,
      sequence.toList <+: other.toList → sequence = other := by
    decide
  have equal : sequence = other := by
    have inSame : other.toList <+: sequence.toList ++ behind :=
      same ▸ List.prefix_append other.toList otherBehind
    rcases List.prefix_or_prefix_of_prefix (List.prefix_append sequence.toList behind) inSame with
      shorter | longer
    · exact apart sequence listed other otherListed shorter
    · exact (apart other otherListed sequence listed longer).symm
  subst equal
  exact ⟨rfl, List.append_cancel_left same⟩

end sequences

theorem deleting_sequence {sequence : String} (listed : sequence ∈ sequences)
    (rest : List Char) :
    deleting (sequences.map String.toList) 0 (sequence.toList ++ rest) =
      deleting (sequences.map String.toList) 0 rest := by
  simp only [sequences, openings, List.cons_append, List.nil_append, List.mem_cons,
    List.not_mem_nil, or_false] at listed
  rcases listed with rfl | rfl | rfl | rfl <;> rfl

theorem deleting_visible {inside : List Char} (visible : escape ∉ inside) (rest : List Char) :
    deleting (sequences.map String.toList) 0 (inside ++ rest) =
      inside ++ deleting (sequences.map String.toList) 0 rest := by
  induction inside with
  | nil => rfl
  | cons char inside induction =>
      rw [List.mem_cons, not_or] at visible
      have none : (sequences.map String.toList).find?
          (·.isPrefixOf (char :: (inside ++ rest))) = none := by
        rw [List.find?_eq_none]
        intro pattern listed begins
        obtain ⟨sequence, isSequence, rfl⟩ := List.mem_map.mp listed
        obtain ⟨tail, shape, _⟩ := sequence_eq_cons isSequence
        rw [shape, List.isPrefixOf_iff_prefix, List.cons_prefix_cons] at begins
        exact visible.1 begins.1
      rw [List.cons_append, deleting, none, induction visible.2, List.cons_append]

namespace ColorsEnd

variable {colored : List Char}

theorem nil : ColorsEnd [] := by
  intro opening opens before after cut
  obtain ⟨_, shape, _⟩ := sequence_eq_cons (mem_sequences_of_mem_openings opens)
  simp [shape] at cut

theorem cons (ends : ColorsEnd colored) {char : Char}
    (first : ∀ opening ∈ openings, ∀ after, char :: colored = opening.toList ++ after →
      EndsColor after) : ColorsEnd (char :: colored) := by
  intro opening opens before after cut
  cases before with
  | nil => exact first opening opens after cut
  | cons _ before => exact ends opening opens before after (List.cons_eq_cons.mp cut).2

theorem prepend (ends : ColorsEnd colored) {front : List Char} (visible : escape ∉ front) :
    ColorsEnd (front ++ colored) := by
  induction front with
  | nil => exact ends
  | cons char front induction =>
      rw [List.mem_cons, not_or] at visible
      refine (induction visible.2).cons fun opening opens after same => ?_
      obtain ⟨_, shape, _⟩ := sequence_eq_cons (mem_sequences_of_mem_openings opens)
      rw [shape] at same
      exact absurd (List.cons_eq_cons.mp same).1.symm visible.1

theorem sequence (ends : ColorsEnd colored) {sequence : String} (listed : sequence ∈ sequences)
    (ended : sequence ∈ openings → EndsColor colored) :
    ColorsEnd (sequence.toList ++ colored) := by
  obtain ⟨tail, shape, visible⟩ := sequence_eq_cons listed
  have unique : ∀ opening ∈ openings, ∀ after,
      sequence.toList ++ colored = opening.toList ++ after → EndsColor after := by
    intro opening opens after same
    obtain ⟨rfl, rfl⟩ := sequence_unique listed (mem_sequences_of_mem_openings opens) same
    exact ended opens
  rw [shape] at unique ⊢
  exact (ends.prepend visible).cons unique

end ColorsEnd

namespace Line

theorem toList_render_cons (palette : Palette) (span : Span) (line : Line) :
    (Line.render palette (span :: line)).toList =
      (palette.paint span.role span.text).toList ++ (line.render palette).toList := by
  simp [Line.render]

theorem toList_renderAll_cons (palette : Palette) (line : Line) (lines : List Line) :
    (Line.renderAll palette (line :: lines)).toList =
      (line.render palette).toList ++ (['\n'] ++ (Line.renderAll palette lines).toList) := by
  simp [Line.renderAll]

end Line

namespace Colors

variable {colored text : List Char}

theorem visible (colors : Colors colored text) : escape ∉ text := by
  induction colors with
  | nil => exact List.not_mem_nil
  | plain visible _ induction => simp [visible, induction]
  | span _ visible _ _ induction => simp [visible, induction]

theorem deleting_eq (colors : Colors colored text) :
    deleting (sequences.map String.toList) 0 colored = text := by
  induction colors with
  | nil => rfl
  | plain visible _ induction => rw [deleting_visible visible, induction]
  | span opens visible _ _ induction =>
      rw [deleting_sequence (mem_sequences_of_mem_openings opens), deleting_visible visible,
        deleting_sequence closing_mem_sequences, induction]

theorem colorsEnd (colors : Colors colored text) : ColorsEnd colored := by
  induction colors with
  | nil => exact .nil
  | plain visible _ induction => exact induction.prepend visible
  | @span opening inside colored _ opens visible unbroken _ induction =>
      have closes : ColorsEnd (closing.toList ++ colored) :=
        induction.sequence closing_mem_sequences fun opens => absurd opens (by decide)
      exact (closes.prepend visible).sequence (mem_sequences_of_mem_openings opens)
        fun _ => ⟨inside, colored, rfl, visible, unbroken⟩

theorem of_visible {text : List Char} (visible : escape ∉ text) : Colors text text := by
  simpa using Colors.plain visible .nil

theorem append {moreColored moreText : List Char} (colors : Colors colored text)
    (more : Colors moreColored moreText) :
    Colors (colored ++ moreColored) (text ++ moreText) := by
  induction colors with
  | nil => exact more
  | plain visible _ induction =>
      simp only [List.append_assoc]
      exact .plain visible induction
  | span opens visible unbroken _ induction =>
      simp only [List.append_assoc]
      exact .span opens visible unbroken induction

/-- Text between an opening sequence and the closing one. -/
theorem painted (opening : String) {text : String} (opens : opening ∈ openings)
    (visible : escape ∉ text.toList) (unbroken : '\n' ∉ text.toList) :
    Colors (opening ++ text ++ closing).toList text.toList := by
  simpa using Colors.span opens visible unbroken .nil

theorem paint (role : Role) {text : String} (visible : escape ∉ text.toList)
    (unbroken : '\n' ∉ text.toList) :
    Colors (Palette.colored.paint role text).toList text.toList := by
  cases role with
  | plain => exact .of_visible visible
  | keyword => exact .painted "\x1b[35m" (by decide) visible unbroken
  | name => exact .painted "\x1b[34m" (by decide) visible unbroken
  | comment => exact .painted "\x1b[2m" (by decide) visible unbroken

theorem render {line : Line} (visible : escape ∉ (line.render Palette.uncolored).toList)
    (unbroken : '\n' ∉ (line.render Palette.uncolored).toList) :
    Colors (line.render Palette.colored).toList (line.render Palette.uncolored).toList := by
  induction line with
  | nil => exact .nil
  | cons span line induction =>
      simp only [Line.toList_render_cons, Palette.paint_uncolored, List.mem_append, not_or]
        at visible unbroken ⊢
      exact (Colors.paint span.role visible.1 unbroken.1).append
        (induction visible.2 unbroken.2)

theorem renderAll {lines : List Line}
    (written : ∀ line ∈ lines, escape ∉ (line.render Palette.uncolored).toList ∧
      '\n' ∉ (line.render Palette.uncolored).toList) :
    Colors (Line.renderAll Palette.colored lines).toList
      (Line.renderAll Palette.uncolored lines).toList := by
  induction lines with
  | nil => exact .nil
  | cons line lines induction =>
      obtain ⟨⟨visible, unbroken⟩, others⟩ := List.forall_mem_cons.mp written
      rw [Line.toList_renderAll_cons, Line.toList_renderAll_cons]
      exact (Colors.render visible unbroken).append
        ((Colors.of_visible (by decide)).append (induction others))

end Colors

end PortableC.Text
