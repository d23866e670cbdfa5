import PortableC.Proofs.Text.Run
import PortableC.Text.Blank

namespace PortableC.Text

/-! What trimming leaves alone and what it takes away, and texts without any blanks. -/

variable {text : List Char} {blank : Char}

theorem isAlphanum_range {char : Char} (alphanum : char.isAlphanum = true) :
    48 ≤ char.toNat ∧ char.toNat ≤ 57 ∨ 65 ≤ char.toNat ∧ char.toNat ≤ 90 ∨
      97 ≤ char.toNat ∧ char.toNat ≤ 122 := by
  have code : char.val.toNat = char.toNat := rfl
  have classes : (decide (65 ≤ char.val ∧ char.val ≤ 90) ||
      (97 ≤ char.val && char.val ≤ 122) || (48 ≤ char.val && char.val ≤ 57)) = true := alphanum
  simp [UInt32.le_iff_toNat_le, code] at classes
  omega

theorem isBlank_of_isAlphanum {char : Char} (alphanum : char.isAlphanum = true) :
    isBlank char = false := by
  have range := isAlphanum_range alphanum
  simp only [isBlank, Bool.or_eq_false_iff, Bool.and_eq_false_iff, decide_eq_false_iff_not,
    beq_eq_false_iff_ne]
  omega

theorem trimStart_eq_self (visible : ∀ char ∈ text.head?, isBlank char = false) :
    trimStart text = text := by
  have inside : ∀ char ∈ [], isBlank char = true := nofun
  exact dropWhile_run inside text visible

theorem trimEnd_eq_self (visible : ∀ char ∈ text.getLast?, isBlank char = false) :
    trimEnd text = text := by
  have reversed : trimStart text.reverse = text.reverse :=
    trimStart_eq_self (by simpa using visible)
  simp only [trimEnd]
  rw [show text.reverse.dropWhile isBlank = text.reverse from reversed, List.reverse_reverse]

theorem trim_eq_self (startVisible : ∀ char ∈ text.head?, isBlank char = false)
    (endVisible : ∀ char ∈ text.getLast?, isBlank char = false) : trim text = text := by
  rw [trim, trimStart_eq_self startVisible, trimEnd_eq_self endVisible]

theorem trim_of_visible (visible : ∀ char ∈ text, isBlank char = false) : trim text = text :=
  trim_eq_self (fun _ member => visible _ (List.mem_of_head? member))
    (fun _ member => visible _ (List.mem_of_getLast? member))

theorem head_trimStart (text : List Char) :
    ∀ char ∈ (trimStart text).head?, isBlank char = false := by
  intro char first
  have visible := List.head?_dropWhile_not isBlank text
  rw [trimStart] at first
  rw [Option.mem_def.mp first] at visible
  exact visible

theorem last_trimEnd (text : List Char) :
    ∀ char ∈ (trimEnd text).getLast?, isBlank char = false := by
  rw [trimEnd, List.getLast?_reverse]
  exact head_trimStart text.reverse

theorem prefix_trimEnd (text : List Char) : trimEnd text <+: text := by
  rw [trimEnd, ← List.reverse_suffix, List.reverse_reverse]
  exact List.dropWhile_suffix isBlank

theorem head_of_head_trimEnd {char : Char} (isFirst : char ∈ (trimEnd text).head?) :
    char ∈ text.head? := by
  have begins := (List.singleton_prefix_iff_head?_eq_some.mpr isFirst).trans (prefix_trimEnd text)
  exact List.singleton_prefix_iff_head?_eq_some.mp begins

theorem trim_trim (text : List Char) : trim (trim text) = trim text :=
  trim_eq_self (fun char isFirst => head_trimStart text char (head_of_head_trimEnd isFirst))
    (last_trimEnd _)

/-- Nothing but blanks. -/
def Blanks (text : List Char) : Prop :=
  ∀ char ∈ text, isBlank char = true

theorem exists_blanks_trimStart (text : List Char) :
    ∃ before, Blanks before ∧ text = before ++ trimStart text :=
  ⟨text.takeWhile isBlank, List.all_eq_true.mp List.all_takeWhile,
    List.takeWhile_append_dropWhile.symm⟩

theorem exists_trimEnd_blanks (text : List Char) :
    ∃ after, Blanks after ∧ text = trimEnd text ++ after := by
  obtain ⟨after, blank, cut⟩ := exists_blanks_trimStart text.reverse
  refine ⟨after.reverse, fun char member => blank char (List.mem_reverse.mp member), ?_⟩
  have whole := congrArg List.reverse cut
  rwa [List.reverse_reverse, List.reverse_append] at whole

/-- Trimming takes blanks from both ends. -/
theorem exists_blanks_trim (text : List Char) :
    ∃ before after, Blanks before ∧ Blanks after ∧ text = before ++ trim text ++ after := by
  obtain ⟨before, blankBefore, cutStart⟩ := exists_blanks_trimStart text
  obtain ⟨after, blankAfter, cutEnd⟩ := exists_trimEnd_blanks (trimStart text)
  refine ⟨before, after, blankBefore, blankAfter, ?_⟩
  rw [List.append_assoc, trim, ← cutEnd]
  exact cutStart

theorem trimStart_blanks_append {blanks : List Char} (allBlank : Blanks blanks)
    (text : List Char) : trimStart (blanks ++ text) = trimStart text :=
  List.dropWhile_append_of_pos allBlank

theorem trimStart_blanks {blanks : List Char} (allBlank : Blanks blanks)
    (visible : ∀ char ∈ text.head?, isBlank char = false) : trimStart (blanks ++ text) = text := by
  rw [trimStart_blanks_append allBlank, trimStart_eq_self visible]

theorem trimEnd_append_blanks {blanks : List Char} (allBlank : Blanks blanks)
    (text : List Char) : trimEnd (text ++ blanks) = trimEnd text := by
  have reversed : Blanks blanks.reverse := fun char member =>
    allBlank char (List.mem_reverse.mp member)
  simp only [trimEnd, List.reverse_append]
  rw [List.dropWhile_append_of_pos reversed]

theorem trim_blanks_append {blanks : List Char} (allBlank : Blanks blanks) (text : List Char) :
    trim (blanks ++ text) = trim text := by
  rw [trim, trimStart_blanks_append allBlank, trim]

theorem trim_cons_blank (isBlank_blank : isBlank blank = true) :
    trim (blank :: text) = trim text :=
  trim_blanks_append (List.forall_mem_singleton.mpr isBlank_blank) text

theorem trim_append_blanks {blanks : List Char} (allBlank : Blanks blanks) (text : List Char) :
    trim (text ++ blanks) = trim text := by
  obtain ⟨before, blankBefore, cut⟩ := exists_blanks_trimStart text
  have start := head_trimStart text
  rw [cut, List.append_assoc, trim_blanks_append blankBefore, trim_blanks_append blankBefore]
  generalize trimStart text = rest at start
  cases rest with
  | nil =>
      -- With nothing visible in front of them, the blanks are taken off as those of the start.
      have whole := trim_blanks_append allBlank []
      rwa [List.append_nil] at whole
  | cons first rest =>
      have visible : ∀ char ∈ ((first :: rest) ++ blanks).head?, isBlank char = false := start
      rw [trim, trim, trimStart_eq_self visible, trimStart_eq_self start,
        trimEnd_append_blanks allBlank]

/-- Something is written, and it does not end in a blank. -/
def EndsVisibly (text : List Char) : Prop :=
  ∃ before last, text = before ++ [last] ∧ isBlank last = false

theorem endsVisibly_of_last (filled : text ≠ [])
    (visible : ∀ char ∈ text.getLast?, isBlank char = false) : EndsVisibly text :=
  ⟨text.dropLast, text.getLast filled, (List.dropLast_concat_getLast filled).symm,
    visible _ (List.getLast?_eq_some_getLast filled)⟩

theorem EndsVisibly.trimEnd_append (visible : EndsVisibly text) (behind : List Char) :
    trimEnd (text ++ behind) = text ++ trimEnd behind := by
  obtain ⟨before, last, rfl, isVisible⟩ := visible
  obtain ⟨after, blank, cut⟩ := exists_trimEnd_blanks behind
  conv => lhs; rw [cut, ← List.append_assoc, trimEnd_append_blanks blank]
  apply trimEnd_eq_self
  intro char isLast
  rw [List.getLast?_append] at isLast
  rcases Option.or_eq_some_iff.mp isLast with inBehind | ⟨_, inText⟩
  · exact last_trimEnd behind char inBehind
  · rw [List.getLast?_concat] at inText
    exact Option.some.inj inText ▸ isVisible

theorem trimEnd_blanks {text blanks : List Char} {last : Char}
    (visible : isBlank last = false)
    (allBlank : ∀ char ∈ blanks, isBlank char = true) :
    trimEnd (text ++ last :: blanks) = text ++ [last] := by
  rw [List.append_cons, trimEnd_append_blanks allBlank]
  exact trimEnd_eq_self (by simpa using visible)

def visible (text : List Char) : List Char :=
  text.filter fun char => !isBlank char

theorem visible_append (first second : List Char) :
    visible (first ++ second) = visible first ++ visible second :=
  List.filter_append ..

theorem visible_blanks {blanks : List Char} (allBlank : Blanks blanks) : visible blanks = [] := by
  refine List.filter_eq_nil_iff.mpr fun char member => ?_
  rw [allBlank char member]
  exact Bool.false_ne_true

end PortableC.Text
