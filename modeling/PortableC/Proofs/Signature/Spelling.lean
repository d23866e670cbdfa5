import Mathlib.Data.List.Basic
import PortableC.Proofs.CType.Spelling
import PortableC.Proofs.Checks
import PortableC.Proofs.Text.Joined
import PortableC.Signature.Parser

namespace PortableC.Signature

/-! Reading a signature undoes writing it, unless a parameter is `void` itself.

A written list is cut at its commas into the pieces that were joined, since no piece
has a comma or a blank in it.  A parameter `void` has no written form of its own,
because `(void)` is the empty list and `void` among others is refused.
-/

variable {signature : Signature} {text : String}

def pieceChars (signature : Signature) : List (List Char) :=
  signature.pieces.map String.toList

theorem pieceChars_eq (signature : Signature) :
    signature.pieceChars = signature.params.map (·.spelling.toList) ++
      if signature.variadic then [ellipsis] else [] := by
  simp only [pieceChars, pieces, List.map_append, List.map_map]
  congr 1
  split <;> rfl

def innerChars (signature : Signature) : List Char :=
  [',', ' '].intercalate signature.pieceChars

theorem toList_spelling (signature : Signature) :
    signature.spelling.toList =
      signature.ret.spelling.toList ++ '(' :: (signature.innerChars ++ [')']) := by
  simp [spelling, innerChars, pieceChars]

theorem piece_char {piece : List Char} {char : Char}
    (listed : piece ∈ signature.pieceChars) (member : char ∈ piece) :
    char.isAlphanum = true ∨ char = '*' ∨ char = '.' := by
  rw [pieceChars_eq] at listed
  rcases List.mem_append.mp listed with isParam | isEllipsis
  · obtain ⟨param, _, rfl⟩ := List.mem_map.mp isParam
    exact (CType.spelling_char member).imp_right .inl
  · split at isEllipsis
    · rw [List.mem_singleton.mp isEllipsis] at member
      simp only [ellipsis, List.mem_cons, List.not_mem_nil, or_self, or_false] at member
      exact .inr (.inr member)
    · simp at isEllipsis

theorem not_mem_piece {piece : List Char} {char : Char} (listed : piece ∈ signature.pieceChars)
    (other : char.isAlphanum = false ∧ char ≠ '*' ∧ char ≠ '.') : char ∉ piece := by
  intro member
  rcases piece_char listed member with alphanum | star | dot
  · simp [other.1] at alphanum
  · exact other.2.1 star
  · exact other.2.2 dot

theorem piece_visible {piece : List Char} {char : Char}
    (listed : piece ∈ signature.pieceChars) (member : char ∈ piece) :
    Text.isBlank char = false := by
  rcases piece_char listed member with alphanum | rfl | rfl
  · exact Text.isBlank_of_isAlphanum alphanum
  · decide
  · decide

theorem piece_ne_nil {piece : List Char} (listed : piece ∈ signature.pieceChars) :
    piece ≠ [] := by
  rw [pieceChars_eq] at listed
  rcases List.mem_append.mp listed with isParam | isEllipsis
  · obtain ⟨param, _, rfl⟩ := List.mem_map.mp isParam
    exact param.spelling_ne_empty
  · split at isEllipsis
    · rw [List.mem_singleton.mp isEllipsis]
      decide
    · simp at isEllipsis

theorem innerChars_char {char : Char} (member : char ∈ signature.innerChars) :
    char = ',' ∨ char = ' ' ∨ ∃ piece ∈ signature.pieceChars, char ∈ piece := by
  rcases Text.mem_intercalate member with inSeparator | inPiece
  · simp only [List.mem_cons, List.not_mem_nil, or_false] at inSeparator
    exact inSeparator.imp_right .inl
  · exact .inr (.inr inPiece)

theorem parenthesis_not_mem_innerChars {char : Char} (parenthesis : char = '(' ∨ char = ')') :
    char ∉ signature.innerChars := by
  intro member
  rcases innerChars_char member with comma | blank | ⟨piece, listed, member⟩
  · rcases parenthesis with rfl | rfl <;> simp at comma
  · rcases parenthesis with rfl | rfl <;> simp at blank
  · rcases parenthesis with rfl | rfl <;> exact not_mem_piece listed (by decide) member

theorem trim_innerChars (signature : Signature) :
    Text.trim signature.innerChars = signature.innerChars := by
  have visible := @piece_visible signature
  have filled := @piece_ne_nil signature
  simp only [innerChars]
  cases found : signature.pieceChars with
  | nil => rfl
  | cons first rest =>
      rw [found] at visible filled
      have cut := List.dropLast_append_getLast (List.cons_ne_nil first rest)
      have listed := List.getLast_mem (List.cons_ne_nil first rest)
      obtain ⟨before, joined⟩ := Text.intercalate_concat [',', ' '] (first :: rest).dropLast
        ((first :: rest).getLast (List.cons_ne_nil first rest))
      rw [cut] at joined
      apply Text.trim_eq_self
      · rw [Text.intercalate_cons, List.head?_append_of_ne_nil _ (filled List.mem_cons_self)]
        exact fun char member => visible List.mem_cons_self (List.mem_of_head? member)
      · rw [joined, List.getLast?_append_of_ne_nil _ (filled listed)]
        exact fun char member => visible listed (List.mem_of_getLast? member)

theorem pieces_of_innerChars (filled : signature.pieceChars ≠ []) :
    (signature.innerChars.splitOn ',').map Text.trim = signature.pieceChars := by
  have visible := @piece_visible signature
  have noComma : ∀ piece ∈ signature.pieceChars, ',' ∉ piece :=
    fun piece listed => not_mem_piece listed (by decide)
  simp only [innerChars]
  cases found : signature.pieceChars with
  | nil => exact absurd found filled
  | cons first rest =>
      rw [found] at visible noComma
      have trimmed : ∀ piece ∈ first :: rest, Text.trim piece = piece :=
        fun piece listed => Text.trim_of_visible fun _ member => visible listed member
      rw [Text.splitOn_comma noComma, List.map_cons, trimmed first List.mem_cons_self,
        List.map_map]
      congr 1
      conv => rhs; rw [← List.map_id rest]
      apply List.map_congr_left
      intro piece listed
      rw [Function.comp_apply, Text.trim_cons_blank (by decide),
        trimmed piece (List.mem_cons_of_mem _ listed), id]

theorem spelling_ne_ellipsis (type : CType) : type.spelling.toList ≠ ellipsis := by
  intro same
  have member : '.' ∈ type.spelling.toList := by simp [same, ellipsis]
  exact CType.not_mem_spelling (by decide) (by decide) member

theorem parseParam_spelling {param : CType} (notVoid : param ≠ .void) :
    parseParam text param.spelling.toList = .ok param := by
  simp [parseParam, spelling_ne_ellipsis, CType.parseChars_spelling, CType.isVoid, notVoid,
    bind, Except.bind]

/-- A piece other than `...` is read as a parameter wherever it stands. -/
theorem parsePieces_cons {piece : List Char} (rest : List (List Char))
    (notEllipsis : piece ≠ ellipsis) :
    parsePieces text (piece :: rest) = (do
      let type ← parseParam text piece
      let (types, variadic) ← parsePieces text rest
      .ok (type :: types, variadic)) := by
  cases rest with
  | nil =>
      simp only [parsePieces, notEllipsis, ↓reduceIte]
      rfl
  | cons next rest => rfl

theorem parsePieces_pieceChars (text : String) (noVoid : CType.void ∉ signature.params) :
    parsePieces text signature.pieceChars = .ok (signature.params, signature.variadic) := by
  obtain ⟨ret, params, variadic⟩ := signature
  simp only [pieceChars_eq]
  induction params with
  | nil => cases variadic <;> rfl
  | cons param params induction =>
      have notVoid : param ≠ .void := fun same => noVoid (same ▸ List.mem_cons_self)
      have rest := induction fun member => noVoid (List.mem_cons_of_mem _ member)
      rw [List.map_cons, List.cons_append, parsePieces_cons _ (spelling_ne_ellipsis param),
        parseParam_spelling notVoid]
      simp only [bind, Except.bind]
      rw [rest]

theorem innerChars_ne_void (notVoid : CType.void ∉ signature.params) :
    signature.innerChars ≠ ['v', 'o', 'i', 'd'] := by
  intro same
  by_cases filled : signature.pieceChars = []
  · simp [innerChars, filled] at same
  · have pieces := pieces_of_innerChars filled
    rw [same] at pieces
    have single : ['v', 'o', 'i', 'd'] ∈ signature.pieceChars := by
      rw [← pieces]
      decide
    rw [pieceChars_eq] at single
    rcases List.mem_append.mp single with isParam | isEllipsis
    · obtain ⟨param, listed, spelled⟩ := List.mem_map.mp isParam
      have isVoid : CType.void = param :=
        CType.spelling_injective (String.toList_inj.mp (spelled.symm ▸ by decide))
      exact notVoid (isVoid ▸ listed)
    · split at isEllipsis <;> simp [ellipsis] at isEllipsis

theorem parseParams_innerChars (noVoid : CType.void ∉ signature.params) :
    parseParams text signature.innerChars = .ok (signature.params, signature.variadic) := by
  have pieces := parsePieces_pieceChars text noVoid
  simp only [parseParams, trim_innerChars, innerChars_ne_void noVoid, or_false]
  by_cases filled : signature.pieceChars = []
  · rw [filled] at pieces
    simpa [innerChars, filled, parsePieces] using pieces
  · have written : signature.innerChars ≠ [] := by
      intro empty
      have cut := pieces_of_innerChars filled
      rw [empty] at cut
      have listed : [] ∈ signature.pieceChars := by
        rw [← cut]
        decide
      exact piece_ne_nil listed rfl
    rw [if_neg written, pieces_of_innerChars filled, pieces]

/-- A return type and a list in parentheses have no blanks around them. -/
theorem trim_enclosed (ret : CType) (inner : List Char) :
    Text.trim (ret.spelling.toList ++ '(' :: (inner ++ [')'])) =
      ret.spelling.toList ++ '(' :: (inner ++ [')']) := by
  apply Text.trim_eq_self
  · rw [List.head?_append_of_ne_nil _ ret.spelling_ne_empty]
    exact fun char member => CType.spelling_visible (List.mem_of_head? member)
  · simp only [← List.cons_append, ← List.append_assoc, List.getLast?_concat]
    exact fun char last => Option.mem_some_iff.mp last ▸ by decide

theorem trim_toList_spelling (signature : Signature) :
    Text.trim signature.spelling.toList = signature.spelling.toList := by
  rw [toList_spelling, trim_enclosed]

theorem parse_spelling (noVoid : CType.void ∉ signature.params) :
    parse signature.spelling = .ok signature := by
  have inRet : ∀ char ∈ signature.ret.spelling.toList, (char != '(') = true := by
    intro char member
    rw [bne_iff_ne]
    rintro rfl
    exact CType.not_mem_spelling (by decide) (by decide) member
  have stop : ∀ char ∈ ('(' :: (signature.innerChars ++ [')'])).head?, (char != '(') = false := by
    simp
  have before := Text.takeWhile_run inRet _ stop
  have after := Text.dropWhile_run inRet _ stop
  have parentheses : (signature.innerChars.any fun char => char == '(' || char == ')') = false := by
    rw [List.any_eq_false]
    intro char member
    simp only [Bool.or_eq_true, beq_iff_eq]
    exact fun parenthesis => parenthesis_not_mem_innerChars parenthesis member
  have trimmed := signature.trim_toList_spelling.trans signature.toList_spelling
  rw [parse]
  simp only [trimmed, before, after, List.getLast?_concat,
    ne_eq, not_true_eq_false, ↓reduceIte, List.dropLast_concat, parentheses, Bool.false_eq_true,
    CType.trim_spelling, CType.spelling_ne_empty, CType.parseChars_spelling, bind, Except.bind,
    parseParams_innerChars noVoid]

theorem parseParam_not_void {piece : List Char} {type : CType}
    (read : parseParam text piece = .ok type) : type ≠ .void := by
  rintro rfl
  simp only [parseParam] at read
  split at read
  · cases read
  · obtain ⟨type, _, checked⟩ := bind_eq_ok_iff.mp read
    split at checked
    · cases checked
    · cases checked
      contradiction

theorem parsePieces_no_void {piecesRead : List (List Char)} {result : List CType × Bool}
    (read : parsePieces text piecesRead = .ok result) : CType.void ∉ result.1 := by
  induction piecesRead generalizing result with
  | nil => cases read; simp
  | cons piece rest induction =>
      by_cases isEllipsis : piece = ellipsis
      · subst piece
        cases rest with
        | nil => cases read; simp
        | cons next rest => cases read
      · rw [parsePieces_cons rest isEllipsis] at read
        obtain ⟨type, param, others⟩ := bind_eq_ok_iff.mp read
        obtain ⟨tail, readTail, same⟩ := bind_eq_ok_iff.mp others
        cases same
        simp only [List.mem_cons, not_or]
        exact ⟨(parseParam_not_void param).symm, induction readTail⟩

theorem parse_no_void (read : parse text = .ok signature) : CType.void ∉ signature.params := by
  simp only [parse] at read
  split at read
  · cases read
  · rename_i after _
    split at read
    · cases read
    · split at read
      · cases read
      · split at read
        · cases read
        · obtain ⟨ret, _, others⟩ := bind_eq_ok_iff.mp read
          obtain ⟨params, readParams, same⟩ := bind_eq_ok_iff.mp others
          cases same
          simp only [parseParams] at readParams
          split at readParams
          · cases readParams; simp
          · exact parsePieces_no_void readParams

/-- Reading the written form gives the signature back exactly when no parameter is
`void` itself.  So every signature that was read survives being written and read
again, and signatures without such a parameter are told apart by their spelling. -/
theorem parse_spelling_iff_no_void :
    (∀ signature, parse signature.spelling = .ok signature ↔ CType.void ∉ signature.params) ∧
    (∀ text signature, parse text = .ok signature → parse signature.spelling = .ok signature) ∧
    (∀ first second : Signature, CType.void ∉ first.params → CType.void ∉ second.params →
      first.spelling = second.spelling → first = second) := by
  refine ⟨fun signature => ⟨parse_no_void, parse_spelling⟩,
    fun text signature read => parse_spelling (parse_no_void read), ?_⟩
  intro first second firstClean secondClean same
  have read := parse_spelling firstClean
  rw [same, parse_spelling secondClean] at read
  exact (Except.ok.inj read).symm

/-- A blank-ridden text is read to a variadic signature with a pointer to `void`. -/
theorem parse_spelling_iff_no_void_variadic :
    let signature : Signature :=
      { ret := .int .i32, params := [.voidPointer, .int .u8], variadic := true }
    let written : Signature := ⟨.int .i32, [⟨.void, 1⟩, ⟨.scalar (.int .u8), 0⟩], true⟩
    parse " i32 ( void *,u8 , ... ) " = .ok signature ∧
      parse signature.spelling = .ok signature ∧
      CType.void ∉ signature.params ∧ CType.void ∉ written.params ∧
      signature.spelling = written.spelling ∧ signature = written ∧
      parse (Signature.mk .void [.void] false).spelling ≠ .ok ⟨.void, [.void], false⟩ := by
  intro signature written
  have read : parse " i32 ( void *,u8 , ... ) " = .ok signature := by decide
  obtain ⟨exact, again, distinct⟩ := parse_spelling_iff_no_void
  have clean : CType.void ∉ signature.params := by decide
  exact ⟨read, again _ signature read, clean, clean, rfl,
    distinct signature written clean clean rfl,
    fun collapsed => (exact _).mp collapsed (by decide)⟩

end PortableC.Signature
