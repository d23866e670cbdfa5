import Mathlib.Data.List.Chain

namespace PortableC.Text

/-! Lists of texts joined by a separator. -/

section
variable {α : Type}

theorem intercalate_cons (separator first : List α) (rest : List (List α)) :
    separator.intercalate (first :: rest) = first ++ rest.flatMap (separator ++ ·) := by
  induction rest generalizing first with
  | nil => simp
  | cons next rest induction =>
      rw [List.intercalate_cons_cons, induction, List.flatMap_cons]
      simp only [List.append_assoc]

theorem intercalate_concat (separator : List α) (texts : List (List α)) (last : List α) :
    ∃ before, separator.intercalate (texts ++ [last]) = before ++ last := by
  induction texts with
  | nil => exact ⟨[], by simp⟩
  | cons first rest induction =>
      obtain ⟨before, joined⟩ := induction
      refine ⟨first ++ separator ++ before, ?_⟩
      rw [List.cons_append, List.intercalate_cons_of_ne_nil (by simp), joined]
      simp only [List.append_assoc]

theorem flatMap_append_separator (separator : List α) {texts : List (List α)}
    (filled : texts ≠ []) :
    texts.flatMap (· ++ separator) = separator.intercalate texts ++ separator := by
  induction texts with
  | nil => exact absurd rfl filled
  | cons first rest induction =>
      cases rest with
      | nil => simp
      | cons next rest =>
          rw [List.flatMap_cons, induction (by simp), List.intercalate_cons_cons]
          simp only [List.append_assoc]

theorem mem_intercalate {separator : List α} {texts : List (List α)} {item : α}
    (member : item ∈ separator.intercalate texts) :
    item ∈ separator ∨ ∃ text ∈ texts, item ∈ text := by
  cases texts with
  | nil => simp at member
  | cons first rest =>
      rw [intercalate_cons] at member
      rcases List.mem_append.mp member with inFirst | inRest
      · exact .inr ⟨first, List.mem_cons_self, inFirst⟩
      · obtain ⟨text, listed, inText⟩ := List.mem_flatMap.mp inRest
        rcases List.mem_append.mp inText with inSeparator | inText
        · exact .inl inSeparator
        · exact .inr ⟨text, List.mem_cons_of_mem _ listed, inText⟩

/-- The separator stands between other items only, never at an end and never twice in a row. -/
structure Separated (separator : α) (items : List α) : Prop where
  begins : ∀ item ∈ items.head?, item ≠ separator
  ends : ∀ item ∈ items.getLast?, item ≠ separator
  apart : items.IsChain fun first second => first = separator → second ≠ separator

/-- Not even a separator in front stands beside another one. -/
theorem Separated.not_infix_cons {separator : α} {items : List α}
    (separated : Separated separator items) : ¬ [separator, separator] <:+: separator :: items := by
  intro twice
  have apart : (separator :: items).IsChain fun first second =>
      first = separator → second ≠ separator :=
    List.isChain_cons.mpr ⟨fun next isNext _ => separated.begins next isNext, separated.apart⟩
  have both := List.IsChain.infix apart twice
  exact List.isChain_pair.mp both rfl rfl

theorem Separated.not_infix_concat {separator : α} {items : List α}
    (separated : Separated separator items) :
    ¬ [separator, separator] <:+: items ++ [separator] := by
  intro twice
  have apart : (items ++ [separator]).IsChain fun first second =>
      first = separator → second ≠ separator :=
    separated.apart.append (List.isChain_singleton separator) fun last isLast _ _ same =>
      absurd same (separated.ends last isLast)
  have both := List.IsChain.infix apart twice
  exact List.isChain_pair.mp both rfl rfl

theorem Separated.not_infix {separator : α} {items : List α}
    (separated : Separated separator items) : ¬ [separator, separator] <:+: items :=
  fun twice => separated.not_infix_cons (twice.trans (List.suffix_cons separator items).isInfix)

theorem separated_of_not_mem {separator : α} {piece : List α} (closed : separator ∉ piece) :
    Separated separator piece where
  begins _ isFirst := fun same => closed (same ▸ List.mem_of_head? isFirst)
  ends _ isLast := fun same => closed (same ▸ List.mem_of_getLast? isLast)
  apart := (List.isChain_isInfix piece).imp fun _ _ adjacent same =>
    absurd (adjacent.subset List.mem_cons_self) (same ▸ closed)

theorem Separated.append {separator : α} {left right : List α} (first : Separated separator left)
    (second : Separated separator right) : Separated separator (left ++ right) where
  begins item isFirst := by
    rw [List.head?_append] at isFirst
    rcases Option.or_eq_some_iff.mp isFirst with inLeft | ⟨_, inRight⟩
    · exact first.begins item inLeft
    · exact second.begins item inRight
  ends item isLast := by
    rw [List.getLast?_append] at isLast
    rcases Option.or_eq_some_iff.mp isLast with inRight | ⟨_, inLeft⟩
    · exact second.ends item inRight
    · exact first.ends item inLeft
  apart := first.apart.append second.apart fun last isLast _ _ same =>
    absurd same (first.ends last isLast)

theorem Separated.map {β : Type} {separator : α} {items : List α}
    (separated : Separated separator items) {change : α → β}
    (kept : ∀ item ∈ items, change item = change separator → item = separator) :
    Separated (change separator) (items.map change) where
  begins item isFirst := by
    rw [List.head?_map] at isFirst
    obtain ⟨original, found, rfl⟩ := Option.map_eq_some_iff.mp isFirst
    exact fun same => separated.begins original found (kept original (List.mem_of_head? found) same)
  ends item isLast := by
    rw [List.getLast?_map] at isLast
    obtain ⟨original, found, rfl⟩ := Option.map_eq_some_iff.mp isLast
    exact fun same =>
      separated.ends original found (kept original (List.mem_of_getLast? found) same)
  apart := by
    rw [List.isChain_map]
    exact separated.apart.imp_of_mem_imp fun first second isFirst isSecond apart same sameToo =>
      apart (kept first isFirst same) (kept second isSecond sameToo)

theorem Separated.join {separator : α} {left right : List α} (first : Separated separator left)
    (second : Separated separator right) (filledLeft : left ≠ []) (filledRight : right ≠ []) :
    Separated separator (left ++ ([separator] ++ right)) where
  begins item isFirst := by
    rw [List.head?_append_of_ne_nil _ filledLeft] at isFirst
    exact first.begins item isFirst
  ends item isLast := by
    rw [← List.append_assoc, List.getLast?_append_of_ne_nil _ filledRight] at isLast
    exact second.ends item isLast
  apart := by
    rw [List.isChain_append, List.singleton_append, List.isChain_cons]
    exact ⟨first.apart, ⟨fun next isNext _ => second.begins next isNext, second.apart⟩,
      fun last isLast _ _ same => absurd same (first.ends last isLast)⟩

/-- Joined pieces are separated when each has something in it, but no separator. -/
theorem separated_intercalate {separator : α} {pieces : List (List α)}
    (filled : ∀ piece ∈ pieces, piece ≠ []) (closed : ∀ piece ∈ pieces, separator ∉ piece) :
    Separated separator ([separator].intercalate pieces) := by
  induction pieces with
  | nil => exact separated_of_not_mem List.not_mem_nil
  | cons first rest induction =>
      obtain ⟨filledFirst, filledRest⟩ := List.forall_mem_cons.mp filled
      obtain ⟨closedFirst, closedRest⟩ := List.forall_mem_cons.mp closed
      have others := induction filledRest closedRest
      cases rest with
      | nil =>
          rw [List.intercalate_singleton]
          exact separated_of_not_mem closedFirst
      | cons next rest =>
          rw [List.intercalate_cons_cons, List.append_assoc]
          refine (separated_of_not_mem closedFirst).join others filledFirst ?_
          rw [intercalate_cons]
          exact List.append_ne_nil_of_left_ne_nil (filledRest next List.mem_cons_self) _

theorem not_mem_of_mem_splitOn [BEq α] [LawfulBEq α] {separator : α} {items piece : List α}
    (listed : piece ∈ items.splitOn separator) : separator ∉ piece := by
  induction items generalizing piece with
  | nil => simp_all
  | cons item items induction =>
      rw [List.splitOn_cons_eq_if_modifyHead] at listed
      by_cases cutHere : (item == separator) = true
      · rw [if_pos cutHere] at listed
        rcases List.mem_cons.mp listed with rfl | inRest
        · exact List.not_mem_nil
        · exact induction inRest
      · rw [if_neg cutHere] at listed
        cases found : items.splitOn separator with
        | nil => simp at found
        | cons first rest =>
            rw [found] at induction listed
            rcases List.mem_cons.mp listed with rfl | inRest
            · have other : separator ≠ item := fun same => cutHere (beq_iff_eq.mpr same.symm)
              rw [List.mem_cons, not_or]
              exact ⟨other, induction List.mem_cons_self⟩
            · exact induction (List.mem_cons_of_mem _ inRest)

/-- There is one way to cut a list at all its separators. -/
theorem splitOn_eq_iff [BEq α] [LawfulBEq α] {separator : α} {items : List α}
    {pieces : List (List α)} :
    items.splitOn separator = pieces ↔
      pieces ≠ [] ∧ (∀ piece ∈ pieces, separator ∉ piece) ∧
        items = [separator].intercalate pieces := by
  constructor
  · rintro rfl
    exact ⟨List.splitOn_ne_nil separator items, fun _ => not_mem_of_mem_splitOn,
      (List.intercalate_splitOn separator).symm⟩
  · rintro ⟨filled, closed, rfl⟩
    exact List.splitOn_intercalate separator closed filled

end

/-- Cut at its commas, a list written with `, ` has a space in front of every piece
but the first. -/
theorem splitOn_comma {first : List Char} {rest : List (List Char)}
    (noComma : ∀ text ∈ first :: rest, ',' ∉ text) :
    ([',', ' '].intercalate (first :: rest)).splitOn ',' = first :: rest.map (' ' :: ·) := by
  have spaced : [',', ' '].intercalate (first :: rest) =
      [','].intercalate (first :: rest.map (' ' :: ·)) := by
    rw [intercalate_cons, intercalate_cons, List.flatMap_map]
    rfl
  rw [spaced]
  apply List.splitOn_intercalate
  · intro text member
    rcases List.mem_cons.mp member with rfl | inRest
    · exact noComma text List.mem_cons_self
    · obtain ⟨piece, listed, rfl⟩ := List.mem_map.mp inRest
      simpa using noComma piece (List.mem_cons_of_mem _ listed)
  · simp

end PortableC.Text
