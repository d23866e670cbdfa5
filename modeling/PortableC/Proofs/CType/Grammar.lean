import Mathlib.Algebra.Group.Nat.Defs
import Mathlib.Data.List.Basic
import Mathlib.Data.List.TakeWhile
import PortableC.Proofs.CType.Spelling

namespace PortableC

/-! Which texts are types, and which of them are the same type.

A type is written as its base with stars behind it, and blanks may stand anywhere but inside
the base.  The reader takes a text apart from its end: the last run of stars and blanks holds
the stars, and what is in front of it has to be a base.  As no base has a star or a blank in
it, there is one way to cut a text, and blanks are all that two texts of one type may differ in.
To take the stars off one by one comes to the same, as long as the count fits in its word.
-/

namespace CType

open Text (Blanks visible)

variable {text : String} {chars tail blanks : List Char} {char : Char} {type : CType}
  {gaps : List (List Char)} {error : Error}

/-- The grammar of types: a base, then stars with blanks in front of each, and blanks around
the whole. -/
inductive Written (text : String) : CType → Prop
  | stars {before : List Char} {base : BaseType} {gaps : List (List Char)} {after : List Char}
      (blankBefore : Blanks before) (blankGaps : ∀ gap ∈ gaps, Blanks gap)
      (blankAfter : Blanks after)
      (whole : text.toList =
        before ++ base.spelling.toList ++ gaps.flatMap (· ++ ['*']) ++ after) :
      Written text { base, stars := gaps.length }

/-! Stars with blanks among them. -/

theorem isStarOrBlank_iff : isStarOrBlank char = true ↔ char = '*' ∨ Text.isBlank char = true := by
  rw [isStarOrBlank, Bool.or_eq_true, beq_iff_eq]

theorem ne_star_of_isBlank (blank : Text.isBlank char = true) : char ≠ '*' := by
  rintro rfl
  exact absurd blank (by decide)

theorem isStarOrBlank_of_blanks (allBlank : Blanks blanks) :
    ∀ char ∈ blanks, isStarOrBlank char = true :=
  fun char member => isStarOrBlank_iff.mpr (.inr (allBlank char member))

theorem count_star_blanks (allBlank : Blanks blanks) : blanks.count '*' = 0 :=
  List.count_eq_zero_of_not_mem fun member => ne_star_of_isBlank (allBlank '*' member) rfl

theorem exists_gaps (starsOrBlanks : ∀ char ∈ tail, isStarOrBlank char = true) :
    ∃ (gaps : List (List Char)) (after : List Char), (∀ gap ∈ gaps, Blanks gap) ∧ Blanks after ∧
      tail = gaps.flatMap (· ++ ['*']) ++ after ∧ tail.count '*' = gaps.length := by
  induction tail with
  | nil => exact ⟨[], [], nofun, nofun, rfl, rfl⟩
  | cons char tail induction =>
      obtain ⟨here, others⟩ := List.forall_mem_cons.mp starsOrBlanks
      obtain ⟨gaps, after, blankGaps, blankAfter, rfl, counted⟩ := induction others
      rcases isStarOrBlank_iff.mp here with rfl | blank
      · refine ⟨[] :: gaps, after, List.forall_mem_cons.mpr ⟨nofun, blankGaps⟩, blankAfter, rfl, ?_⟩
        rw [List.count_cons_self, counted, List.length_cons]
      · rw [List.count_cons_of_ne (ne_star_of_isBlank blank)]
        -- A blank belongs to the gap in front of the next star, if there is one.
        cases gaps with
        | nil =>
            exact ⟨[], char :: after, nofun, List.forall_mem_cons.mpr ⟨blank, blankAfter⟩, rfl,
              counted⟩
        | cons gap gaps =>
            obtain ⟨blankGap, blankOthers⟩ := List.forall_mem_cons.mp blankGaps
            refine ⟨(char :: gap) :: gaps, after, List.forall_mem_cons.mpr ⟨?_, blankOthers⟩,
              blankAfter, rfl, counted⟩
            exact List.forall_mem_cons.mpr ⟨blank, blankGap⟩

theorem isStarOrBlank_of_gaps (blankGaps : ∀ gap ∈ gaps, Blanks gap) :
    ∀ char ∈ gaps.flatMap (· ++ ['*']), isStarOrBlank char = true := by
  intro char member
  obtain ⟨gap, listed, inGap⟩ := List.mem_flatMap.mp member
  rcases List.mem_append.mp inGap with isBlank | isStar
  · exact isStarOrBlank_of_blanks (blankGaps gap listed) char isBlank
  · exact isStarOrBlank_iff.mpr (.inl (List.mem_singleton.mp isStar))

theorem count_star_gaps (blankGaps : ∀ gap ∈ gaps, Blanks gap) :
    (gaps.flatMap (· ++ ['*'])).count '*' = gaps.length := by
  induction gaps with
  | nil => rfl
  | cons gap gaps induction =>
      obtain ⟨blankGap, others⟩ := List.forall_mem_cons.mp blankGaps
      rw [List.flatMap_cons, List.count_append, List.count_append, induction others,
        count_star_blanks blankGap, List.count_singleton_self, List.length_cons, Nat.zero_add,
        Nat.add_comm]

/-- It does not matter which gap a blank is in. -/
theorem written_iff : Written text type ↔
    ∃ before tail, Blanks before ∧ (∀ char ∈ tail, isStarOrBlank char = true) ∧
      text.toList = before ++ (type.base.spelling.toList ++ tail) ∧
      tail.count '*' = type.stars := by
  constructor
  · rintro @⟨before, base, gaps, after, blankBefore, blankGaps, blankAfter, whole⟩
    refine ⟨before, gaps.flatMap (· ++ ['*']) ++ after, blankBefore, ?_, ?_, ?_⟩
    · exact List.forall_mem_append.mpr
        ⟨isStarOrBlank_of_gaps blankGaps, isStarOrBlank_of_blanks blankAfter⟩
    · rw [whole]
      simp only [List.append_assoc]
    · rw [List.count_append, count_star_gaps blankGaps, count_star_blanks blankAfter, Nat.add_zero]
  · rintro ⟨before, tail, blankBefore, starsOrBlanks, whole, counted⟩
    obtain ⟨gaps, after, blankGaps, blankAfter, rfl, count⟩ := exists_gaps starsOrBlanks
    obtain ⟨base, stars⟩ := type
    obtain rfl : gaps.length = stars := count.symm.trans counted
    refine .stars blankBefore blankGaps blankAfter ?_
    rw [whole]
    simp only [List.append_assoc]

/-! Reading from the end. -/

theorem exists_tail (read : ofTrimmed? chars = some type) :
    ∃ tail, (∀ char ∈ tail, isStarOrBlank char = true) ∧
      chars = type.base.spelling.toList ++ tail ∧ tail.count '*' = type.stars := by
  rw [ofTrimmed?] at read
  obtain ⟨base, found, rfl⟩ := Option.map_eq_some_iff.mp read
  have spelled : (chars.reverse.dropWhile isStarOrBlank).reverse = base.spelling.toList := by
    rw [BaseType.spelling_of_ofSpelling? found, String.toList_ofList]
  refine ⟨(chars.reverse.takeWhile isStarOrBlank).reverse, ?_, ?_, List.count_reverse ..⟩
  · exact fun char member =>
      List.all_eq_true.mp List.all_takeWhile char (List.mem_reverse.mp member)
  · rw [← spelled, ← List.reverse_append, List.takeWhile_append_dropWhile, List.reverse_reverse]

/-- Blanks at the end are in the last run in any case. -/
theorem ofTrimmed?_trimEnd (chars : List Char) :
    ofTrimmed? (Text.trimEnd chars) = ofTrimmed? chars := by
  obtain ⟨after, blank, cut⟩ := Text.exists_trimEnd_blanks chars
  have blankToo : ∀ char ∈ after.reverse, isStarOrBlank char = true :=
    fun char member => isStarOrBlank_of_blanks blank char (List.mem_reverse.mp member)
  have noStar : after.reverse.count '*' = 0 := by
    rw [List.count_reverse, count_star_blanks blank]
  conv => rhs; rw [cut]
  simp only [ofTrimmed?, List.reverse_append, List.dropWhile_append_of_pos blankToo,
    List.takeWhile_append_of_pos blankToo, List.count_append, noStar, Nat.zero_add]

theorem ofTrimmed?_trim_eq_some_iff :
    ofTrimmed? (Text.trim text.toList) = some type ↔ Written text type := by
  rw [written_iff]
  constructor
  · intro read
    obtain ⟨before, after, blankBefore, blankAfter, whole⟩ := Text.exists_blanks_trim text.toList
    obtain ⟨tail, starsOrBlanks, cut, counted⟩ := exists_tail read
    refine ⟨before, tail ++ after, blankBefore, ?_, ?_, ?_⟩
    · exact List.forall_mem_append.mpr ⟨starsOrBlanks, isStarOrBlank_of_blanks blankAfter⟩
    · rw [cut] at whole
      simpa only [List.append_assoc] using whole
    · rw [List.count_append, counted, count_star_blanks blankAfter, Nat.add_zero]
  · rintro ⟨before, tail, blankBefore, starsOrBlanks, whole, counted⟩
    have letters : ∀ char ∈ (type.base.spelling.toList ++ tail).head?,
        Text.isBlank char = false := by
      rw [List.head?_append_of_ne_nil _ type.base.spelling_ne_empty]
      exact fun char member =>
        Text.isBlank_of_isAlphanum (type.base.spelling_alphanum char (List.mem_of_head? member))
    rw [Text.trim, ofTrimmed?_trimEnd, whole, Text.trimStart_blanks blankBefore letters,
      ofTrimmed?_append type.base starsOrBlanks, counted]

theorem parse_eq_ok_iff : parse text = .ok type ↔ Written text type := by
  rw [← ofTrimmed?_trim_eq_some_iff, parse, parseChars]
  cases ofTrimmed? (Text.trim text.toList) <;> simp

theorem parseChars_eq_error_iff :
    parseChars chars = .error error ↔
      (∀ type, parseChars chars ≠ .ok type) ∧
        error = .notAType (String.ofList (Text.trim chars)) := by
  rw [parseChars]
  cases ofTrimmed? (Text.trim chars) <;> simp [eq_comm]

/-- Without its blanks a text of a type is the spelling of the type. -/
theorem visible_of_written (written : Written text type) :
    visible text.toList = type.spelling.toList := by
  obtain ⟨before, tail, blankBefore, starsOrBlanks, whole, counted⟩ := written_iff.mp written
  have letters : visible type.base.spelling.toList = type.base.spelling.toList := by
    refine List.filter_eq_self.mpr fun char member => ?_
    rw [Text.isBlank_of_isAlphanum (type.base.spelling_alphanum char member), Bool.not_false]
  have stars : visible tail = List.replicate type.stars '*' := by
    rw [← counted, ← List.filter_beq]
    refine List.filter_congr fun char member => ?_
    rcases isStarOrBlank_iff.mp (starsOrBlanks char member) with rfl | blank
    · decide
    · rw [blank, Bool.not_true, beq_eq_false_iff_ne.mpr (ne_star_of_isBlank blank)]
  rw [whole, Text.visible_append, Text.visible_append, Text.visible_blanks blankBefore, letters,
    stars, List.nil_append, toList_spelling]

/-! Counting the stars one by one. -/

/-- Takes one star after another off a reversed text, with the blanks in front of it, and counts
them in a signed word. -/
def stripStars (fromEnd : List Char) (depth : Int32) : List Char × Int32 :=
  match fromEnd with
  | '*' :: rest => stripStars (rest.dropWhile Text.isBlank) (depth + 1)
  | base => (base, depth)
termination_by fromEnd.length
decreasing_by exact Nat.lt_succ_of_le (List.length_dropWhile_le Text.isBlank rest)

/-- The type is the base under as many pointers as the word says, and none if it is negative. -/
def parseByWord (text : String) : Except Error CType :=
  let (fromEnd, depth) := stripStars (Text.trim text.toList).reverse 0
  match BaseType.ofSpelling? (String.ofList fromEnd.reverse) with
  | some base => .ok { base, stars := depth.toNatClampNeg }
  | none => .error (.notAType (Text.trimmed text))

/-- A run of stars and blanks begins at its first star as well. -/
theorem starRun_dropWhile (fromEnd : List Char) :
    fromEnd.dropWhile isStarOrBlank =
        (fromEnd.dropWhile Text.isBlank).dropWhile isStarOrBlank ∧
      (fromEnd.takeWhile isStarOrBlank).count '*' =
        ((fromEnd.dropWhile Text.isBlank).takeWhile isStarOrBlank).count '*' := by
  obtain ⟨blanks, allBlank, cut⟩ := Text.exists_blanks_trimStart fromEnd
  have inRun := isStarOrBlank_of_blanks allBlank
  constructor
  · calc fromEnd.dropWhile isStarOrBlank
      _ = (blanks ++ Text.trimStart fromEnd).dropWhile isStarOrBlank := congrArg _ cut
      _ = (Text.trimStart fromEnd).dropWhile isStarOrBlank := List.dropWhile_append_of_pos inRun
  · calc (fromEnd.takeWhile isStarOrBlank).count '*'
      _ = ((blanks ++ Text.trimStart fromEnd).takeWhile isStarOrBlank).count '*' := by rw [← cut]
      _ = (blanks ++ (Text.trimStart fromEnd).takeWhile isStarOrBlank).count '*' := by
        rw [List.takeWhile_append_of_pos inRun]
      _ = ((Text.trimStart fromEnd).takeWhile isStarOrBlank).count '*' := by
        rw [List.count_append, count_star_blanks allBlank, Nat.zero_add]

theorem stripStars_eq {fromEnd : List Char} (depth : Int32)
    (visible : ∀ char ∈ fromEnd.head?, Text.isBlank char = false) :
    stripStars fromEnd depth = (fromEnd.dropWhile isStarOrBlank,
      depth + Int32.ofNat ((fromEnd.takeWhile isStarOrBlank).count '*')) := by
  induction fromEnd, depth using stripStars.induct with
  | case1 depth rest induction =>
      have star : isStarOrBlank '*' = true := by decide
      obtain ⟨front, stars⟩ := starRun_dropWhile rest
      rw [stripStars, induction (Text.head_trimStart rest), ← front, ← stars,
        List.dropWhile_cons_of_pos star, List.takeWhile_cons_of_pos star, List.count_cons_self,
        Int32.ofNat_add, Int32.add_assoc, Int32.add_comm 1]
      rfl
  | case2 depth base noStar =>
      have stop : ∀ char ∈ base.head?, isStarOrBlank char = false := by
        intro char first
        rw [isStarOrBlank, visible char first, Bool.or_false, beq_eq_false_iff_ne]
        rintro rfl
        obtain ⟨rest, rfl⟩ := List.head?_eq_some_iff.mp first
        exact noStar rest rfl
      have noRun : base.takeWhile isStarOrBlank = [] := by
        cases base with
        | nil => rfl
        | cons char rest => exact List.takeWhile_cons_of_neg (by simp [stop char rfl])
      have all := List.takeWhile_append_dropWhile (p := isStarOrBlank) (l := base)
      rw [noRun, List.nil_append] at all
      rw [stripStars, noRun, all]
      · simp
      · exact noStar

theorem parseByWord_eq (few : text.toList.count '*' < 2 ^ 31) : parseByWord text = parse text := by
  have visible : ∀ char ∈ (Text.trim text.toList).reverse.head?, Text.isBlank char = false := by
    rw [List.head?_reverse]
    exact Text.last_trimEnd _
  obtain ⟨before, after, _, _, whole⟩ := Text.exists_blanks_trim text.toList
  have inside : Text.trim text.toList <:+: text.toList := ⟨before, after, whole.symm⟩
  have fits : ((Text.trim text.toList).reverse.takeWhile isStarOrBlank).count '*' < 2 ^ 31 :=
    calc ((Text.trim text.toList).reverse.takeWhile isStarOrBlank).count '*'
      _ ≤ (Text.trim text.toList).reverse.count '*' := (List.takeWhile_sublist _).count_le '*'
      _ = (Text.trim text.toList).count '*' := List.count_reverse ..
      _ ≤ text.toList.count '*' := inside.sublist.count_le '*'
      _ < 2 ^ 31 := few
  have counted := Int32.toNatClampNeg_ofNat_of_lt fits
  rw [parseByWord, stripStars_eq 0 visible, parse, parseChars, ofTrimmed?]
  simp only [Int32.zero_add, counted]
  cases BaseType.ofSpelling?
    (String.ofList ((Text.trim text.toList).reverse.dropWhile isStarOrBlank).reverse) <;> rfl

/-- A text is read as a type exactly when it is written as one, with a pointer for each of its
stars.  Any other text is refused, and shown without the blanks around it.  So reading undoes
writing, and two texts are the same type exactly when they differ in blanks only.  To count the
stars in a word comes to the same for fewer than 2 ^ 31 of them. -/
theorem parse_iff_written :
    (∀ text type, parse text = .ok type ↔ Written text type) ∧
    (∀ text error, parse text = .error error ↔
      (∀ type, ¬ Written text type) ∧ error = .notAType (Text.trimmed text)) ∧
    (∀ type : CType, parse type.spelling = .ok type) ∧
    (∀ first second firstType secondType,
      parse first = .ok firstType → parse second = .ok secondType →
        (firstType = secondType ↔ visible first.toList = visible second.toList)) ∧
    ∀ text, text.toList.count '*' < 2 ^ 31 → parseByWord text = parse text := by
  refine ⟨fun _ _ => parse_eq_ok_iff, fun text error => ?_, parseChars_spelling, ?_,
    fun _ => parseByWord_eq⟩
  · rw [parse, parseChars_eq_error_iff]
    refine and_congr_left fun _ => forall_congr' fun type => not_congr ?_
    exact @parse_eq_ok_iff text type
  · intro first second firstType secondType read readToo
    rw [visible_of_written (parse_eq_ok_iff.mp read),
      visible_of_written (parse_eq_ok_iff.mp readToo), String.toList_inj]
    exact ⟨congrArg spelling, spelling_injective⟩

/-- Two pointers to `void` with blanks of several kinds, and one that has none. -/
theorem parse_iff_written_blanks :
    let spaced := " void\u00a0*\t * \u2003"
    let close := "void**"
    parse spaced = .ok ⟨.void, 2⟩ ∧ parse close = .ok ⟨.void, 2⟩ ∧
      Written spaced ⟨.void, 2⟩ ∧ visible spaced.toList = visible close.toList ∧
      parse "* void" = .error (.notAType "* void") ∧ (∀ type, ¬ Written "* void" type) ∧
      parseByWord spaced = .ok ⟨.void, 2⟩ := by
  intro spaced close
  obtain ⟨accepted, refused, _, same, byWord⟩ := parse_iff_written
  have read : parse spaced = .ok ⟨.void, 2⟩ := by decide
  have readToo : parse close = .ok ⟨.void, 2⟩ := by decide
  have unread : parse "* void" = .error (.notAType "* void") := by decide
  exact ⟨read, readToo, (accepted spaced _).mp read, (same _ _ _ _ read readToo).mp rfl, unread,
    ((refused "* void" _).mp unread).1, (byWord spaced (by decide)).trans read⟩

end CType

end PortableC
