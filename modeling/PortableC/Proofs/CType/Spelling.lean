import PortableC.CType.Parser
import PortableC.Proofs.Text.Trim

namespace PortableC

/-! The two written forms of a type, and how the type is read off each.

A spelling is letters and digits followed by stars, and the reader gives the type
back.  A name fragment is letters and digits alone; the base type ends before the
first `p`, since no base spelling has one.
-/

namespace BaseType

theorem forall_of_all {motive : BaseType → Prop} (checked : ∀ base ∈ all, motive base)
    (base : BaseType) : motive base := by
  apply checked
  cases base with
  | void => exact List.mem_cons_self
  | scalar type => exact List.mem_cons_of_mem _ (List.mem_map_of_mem type.mem_all)

theorem spelling_alphanum (base : BaseType) :
    ∀ char ∈ base.spelling.toList, char.isAlphanum = true :=
  List.all_eq_true.mp <|
    forall_of_all (motive := fun base => base.spelling.toList.all Char.isAlphanum = true)
      (by decide) base

theorem spelling_ne_empty (base : BaseType) : base.spelling.toList ≠ [] :=
  forall_of_all (motive := fun base => base.spelling.toList ≠ []) (by decide) base

theorem p_not_mem_spelling (base : BaseType) : 'p' ∉ base.spelling.toList :=
  forall_of_all (motive := fun base => 'p' ∉ base.spelling.toList) (by decide) base

theorem ofSpelling?_spelling (base : BaseType) : ofSpelling? base.spelling = some base :=
  forall_of_all (motive := fun base => ofSpelling? base.spelling = some base)
    (by decide) base

theorem spelling_of_ofSpelling? {text : String} {base : BaseType}
    (found : ofSpelling? text = some base) : base.spelling = text := by
  have same := List.find?_some found
  exact beq_iff_eq.mp same

theorem spelling_injective {first second : BaseType}
    (same : first.spelling = second.spelling) : first = second := by
  have found := ofSpelling?_spelling first
  rw [same, ofSpelling?_spelling] at found
  exact (Option.some.inj found).symm

end BaseType

namespace CType

theorem toList_spelling (type : CType) :
    type.spelling.toList = type.base.spelling.toList ++ List.replicate type.stars '*' := by
  simp [spelling]

theorem toList_nameFragment (type : CType) :
    type.nameFragment.toList = type.base.spelling.toList ++ List.replicate type.stars 'p' := by
  simp [nameFragment]

theorem spelling_char {type : CType} {char : Char} (member : char ∈ type.spelling.toList) :
    char.isAlphanum = true ∨ char = '*' := by
  rw [toList_spelling] at member
  rcases List.mem_append.mp member with inBase | inStars
  · exact .inl (type.base.spelling_alphanum char inBase)
  · exact .inr (List.eq_of_mem_replicate inStars)

theorem not_mem_spelling {type : CType} {char : Char} (notAlphanum : char.isAlphanum = false)
    (notStar : char ≠ '*') : char ∉ type.spelling.toList := by
  intro member
  rcases spelling_char member with alphanum | star
  · simp [notAlphanum] at alphanum
  · exact notStar star

theorem spelling_visible {type : CType} {char : Char} (member : char ∈ type.spelling.toList) :
    Text.isBlank char = false := by
  rcases spelling_char member with alphanum | rfl
  · exact Text.isBlank_of_isAlphanum alphanum
  · decide

theorem spelling_ne_empty (type : CType) : type.spelling.toList ≠ [] := by
  simp [toList_spelling, type.base.spelling_ne_empty]

theorem isStarOrBlank_of_isAlphanum {char : Char} (alphanum : char.isAlphanum = true) :
    isStarOrBlank char = false := by
  have notStar : char ≠ '*' := by
    rintro rfl
    exact absurd alphanum (by decide)
  simp [isStarOrBlank, notStar, Text.isBlank_of_isAlphanum alphanum]

/-- Stars are counted wherever they are among the blanks behind the base. -/
theorem ofTrimmed?_append (base : BaseType) {tail : List Char}
    (starsOrBlanks : ∀ char ∈ tail, isStarOrBlank char = true) :
    ofTrimmed? (base.spelling.toList ++ tail) = some { base, stars := tail.count '*' } := by
  have run : ∀ char ∈ tail.reverse, isStarOrBlank char = true :=
    fun char member => starsOrBlanks char (List.mem_reverse.mp member)
  have letters : ∀ char ∈ base.spelling.toList.reverse, isStarOrBlank char = false :=
    fun char member =>
      isStarOrBlank_of_isAlphanum (base.spelling_alphanum char (List.mem_reverse.mp member))
  have stop : ∀ char ∈ base.spelling.toList.reverse.head?, isStarOrBlank char = false :=
    fun char member => letters char (List.mem_of_head? member)
  have fromEnd : (base.spelling.toList ++ tail).reverse =
      tail.reverse ++ base.spelling.toList.reverse := List.reverse_append
  have pointers : (base.spelling.toList ++ tail).reverse.takeWhile isStarOrBlank =
      tail.reverse := by
    rw [fromEnd, Text.takeWhile_run run _ stop]
  have front : (base.spelling.toList ++ tail).reverse.dropWhile isStarOrBlank =
      base.spelling.toList.reverse := by
    rw [fromEnd, Text.dropWhile_run run _ stop]
  simp only [ofTrimmed?, front, pointers, List.reverse_reverse, String.ofList_toList,
    BaseType.ofSpelling?_spelling, Option.map_some, List.count_reverse]

theorem ofTrimmed?_spelling (type : CType) : ofTrimmed? type.spelling.toList = some type := by
  have stars : ∀ char ∈ List.replicate type.stars '*', isStarOrBlank char = true := by
    intro char member
    rw [List.eq_of_mem_replicate member]
    decide
  rw [toList_spelling, ofTrimmed?_append type.base stars, List.count_replicate_self]

theorem trim_spelling (type : CType) : Text.trim type.spelling.toList = type.spelling.toList :=
  Text.trim_of_visible fun _ member => spelling_visible member

theorem parseChars_spelling (type : CType) : parseChars type.spelling.toList = .ok type := by
  simp only [parseChars, trim_spelling, ofTrimmed?_spelling]

theorem spelling_injective {first second : CType}
    (same : first.spelling = second.spelling) : first = second := by
  have read := first.parseChars_spelling
  rw [same, parseChars_spelling] at read
  exact (Except.ok.inj read).symm

theorem nameFragment_alphanum {type : CType} {char : Char}
    (member : char ∈ type.nameFragment.toList) : char.isAlphanum = true := by
  rw [toList_nameFragment] at member
  rcases List.mem_append.mp member with inBase | inStars
  · exact type.base.spelling_alphanum char inBase
  · rw [List.eq_of_mem_replicate inStars]
    decide

theorem nameFragment_injective {first second : CType}
    (same : first.nameFragment = second.nameFragment) : first = second := by
  have texts := congrArg String.toList same
  rw [toList_nameFragment, toList_nameFragment] at texts
  have lettersOf (type : CType) : (type.base.spelling.toList ++
      List.replicate type.stars 'p').filter (· != 'p') = type.base.spelling.toList := by
    have kept : ∀ char ∈ type.base.spelling.toList, char ≠ 'p' :=
      fun char member same => type.base.p_not_mem_spelling (same ▸ member)
    simpa [List.filter_eq_self] using kept
  have starsOf (type : CType) : (type.base.spelling.toList ++
      List.replicate type.stars 'p').count 'p' = type.stars := by
    simp [List.count_eq_zero_of_not_mem type.base.p_not_mem_spelling]
  have bases : first.base.spelling.toList = second.base.spelling.toList := by
    rw [← lettersOf first, texts, lettersOf second]
  have stars : first.stars = second.stars := by
    rw [← starsOf first, texts, starsOf second]
  have sameBase := BaseType.spelling_injective (String.toList_inj.mp bases)
  cases first
  cases second
  simp_all

/-- The ending `va` of a variadic name is no fragment. -/
theorem nameFragment_ne_va (type : CType) : type.nameFragment.toList ≠ ['v', 'a'] := by
  intro same
  have member : 'a' ∈ type.nameFragment.toList := by simp [same]
  rw [toList_nameFragment] at member
  rcases List.mem_append.mp member with inBase | inStars
  · exact absurd inBase (BaseType.forall_of_all
      (motive := fun base => 'a' ∉ base.spelling.toList) (by decide) type.base)
  · exact absurd (List.eq_of_mem_replicate inStars) (by decide)

end CType

end PortableC
