import PortableC.Proofs.CType.Grammar
import PortableC.Proofs.Signature.Spelling

namespace PortableC

/-! Which texts are signatures, and what is wrong with any other text.

A text has one frame at most: what stands in front of its first opening parenthesis, and
what stands between that and a closing one at its end.  The list inside has one way to be
cut at its commas.  So each check of the reader becomes a statement about a given frame or
a given piece, and the first check that fails is the only fault of a text.
-/

namespace Signature

variable {text : String} {before after inner piece : List Char} {pieces : List (List Char)}
  {type : CType} {params : List CType} {variadic : Bool} {signature : Signature} {error : Error}

/-- The text without the blanks around it is `before(after`, where the parenthesis is the
first that opens. -/
structure Opened (text : String) (before after : List Char) : Prop where
  whole : Text.trim text.toList = before ++ '(' :: after
  first : '(' ∉ before

/-- The text is `before(inner)`, with no parenthesis inside. -/
structure Framed (text : String) (before inner : List Char) : Prop where
  opened : Opened text before (inner ++ [')'])
  flat : '(' ∉ inner ∧ ')' ∉ inner

/-- What stands between the commas of a list, without the blanks around it. -/
def Pieces (list : List Char) (pieces : List (List Char)) : Prop :=
  ∃ cut, cut ≠ [] ∧ (∀ part ∈ cut, ',' ∉ part) ∧ list = [','].intercalate cut ∧
    pieces = cut.map Text.trim

def IsParam (piece : List Char) (type : CType) : Prop :=
  CType.parseChars piece = .ok type ∧ type ≠ .void

/-- A parameter list is nothing, `void`, or pieces that are types other than `void`, with
`...` behind them when more arguments may follow. -/
inductive Params (inner : List Char) : List CType → Bool → Prop
  | nothing (empty : Text.trim inner = []) : Params inner [] false
  | void (alone : Text.trim inner = "void".toList) : Params inner [] false
  | pieces {typed : List (List Char)} {params : List CType} {variadic : Bool}
      (cut : Pieces (Text.trim inner) (typed ++ if variadic then [ellipsis] else []))
      (read : List.Forall₂ IsParam typed params) : Params inner params variadic

/-- The grammar of signatures. -/
inductive Written (text : String) : Signature → Prop
  | frame {before inner : List Char} {ret : CType} {params : List CType} {variadic : Bool}
      (framed : Framed text before inner) (filled : Text.trim before ≠ [])
      (returns : CType.parseChars before = .ok ret) (listed : Params inner params variadic) :
      Written text { ret, params, variadic }

/-- Why a piece is no parameter. -/
inductive Offends (text : String) (piece : List Char) : Error → Prop
  | ellipsis (same : piece = ellipsis) :
      Offends text piece (.notASignature text .misplacedEllipsis)
  | untyped (other : piece ≠ Signature.ellipsis)
      (unread : ∀ type, CType.parseChars piece ≠ .ok type) :
      Offends text piece (.notAType (String.ofList piece))
  | void (read : CType.parseChars piece = .ok .void) :
      Offends text piece (.notASignature text .voidParameter)

/-- The first piece that is no parameter.  At the end `...` is in its place. -/
inductive FirstOffence (text : String) (pieces : List (List Char)) (error : Error) : Prop
  | behind {earlier : List (List Char)} {piece : List Char} {later : List (List Char)}
      (cut : pieces = earlier ++ piece :: later)
      (params : ∀ piece ∈ earlier, ∃ type, IsParam piece type)
      (offends : Offends text piece error) (misplaced : piece = ellipsis → later ≠ [])

/-- What is wrong with a text, where everything in front of the fault is right. -/
inductive Refused (text : String) : Error → Prop
  | missingOpen (unopened : '(' ∉ Text.trim text.toList) :
      Refused text (.notASignature text .missingOpen)
  | missingClose {before after : List Char} (opened : Opened text before after)
      (unclosed : after.getLast? ≠ some ')') : Refused text (.notASignature text .missingClose)
  | nested {before inner : List Char} (opened : Opened text before (inner ++ [')']))
      (nested : '(' ∈ inner ∨ ')' ∈ inner) : Refused text (.notASignature text .nestedParentheses)
  | missingReturn {before inner : List Char} (framed : Framed text before inner)
      (empty : Text.trim before = []) : Refused text (.notASignature text .missingReturnType)
  | untypedReturn {before inner : List Char} (framed : Framed text before inner)
      (filled : Text.trim before ≠ []) (unread : ∀ type, CType.parseChars before ≠ .ok type) :
      Refused text (.notAType (String.ofList (Text.trim before)))
  | parameter {before inner : List Char} {ret : CType} {pieces : List (List Char)} {error : Error}
      (framed : Framed text before inner) (filled : Text.trim before ≠ [])
      (returns : CType.parseChars before = .ok ret) (nonempty : Text.trim inner ≠ [])
      (notVoid : Text.trim inner ≠ "void".toList) (cut : Pieces (Text.trim inner) pieces)
      (offence : FirstOffence text pieces error) : Refused text error

/-! The list between the parentheses. -/

theorem pieces_iff {list : List Char} :
    Pieces list pieces ↔ (list.splitOn ',').map Text.trim = pieces := by
  constructor
  · rintro ⟨cut, filled, closed, joined, rfl⟩
    rw [Text.splitOn_eq_iff.mpr ⟨filled, closed, joined⟩]
  · intro same
    obtain ⟨filled, closed, joined⟩ := Text.splitOn_eq_iff.mp (rfl : list.splitOn ',' = _)
    exact ⟨_, filled, closed, joined, same.symm⟩

theorem Pieces.trimmed {list : List Char} (cut : Pieces list pieces) {piece : List Char}
    (listed : piece ∈ pieces) : Text.trim piece = piece := by
  obtain ⟨parts, _, _, _, rfl⟩ := cut
  obtain ⟨part, _, rfl⟩ := List.mem_map.mp listed
  exact Text.trim_trim part

theorem isVoid_iff : type.isVoid = true ↔ type = .void := by
  rw [CType.isVoid, beq_iff_eq]

theorem not_isParam_ellipsis : ¬ IsParam ellipsis type := by
  rintro ⟨read, _⟩
  cases read

theorem parseParam_eq_ok_iff : parseParam text piece = .ok type ↔ IsParam piece type := by
  by_cases isEllipsis : piece = ellipsis
  · subst isEllipsis
    simp [parseParam, not_isParam_ellipsis]
  · rw [parseParam, if_neg isEllipsis, bind_eq_ok_iff]
    constructor
    · rintro ⟨read, parsed, checked⟩
      by_cases isVoid : read.isVoid = true
      · rw [if_pos isVoid] at checked
        cases checked
      · rw [if_neg isVoid] at checked
        cases checked
        exact ⟨parsed, fun same => isVoid (isVoid_iff.mpr same)⟩
    · rintro ⟨parsed, notVoid⟩
      exact ⟨type, parsed, if_neg fun isVoid => notVoid (isVoid_iff.mp isVoid)⟩

theorem parseParam_of_offends (trimmed : Text.trim piece = piece)
    (offends : Offends text piece error) : parseParam text piece = .error error := by
  cases offends with
  | ellipsis same => rw [parseParam, if_pos same]
  | untyped other unread =>
      have refused := CType.parseChars_eq_error_iff.mpr ⟨unread, rfl⟩
      rw [trimmed] at refused
      rw [parseParam, if_neg other, refused]
      rfl
  | void read =>
      have other : piece ≠ Signature.ellipsis := by
        rintro rfl
        cases read
      rw [parseParam, if_neg other, read]
      rfl

/-- A piece is a parameter or offends. -/
theorem isParam_or_offends (text : String) (piece : List Char) :
    (∃ type, IsParam piece type) ∨ ∃ error, Offends text piece error := by
  by_cases isEllipsis : piece = ellipsis
  · exact .inr ⟨_, .ellipsis isEllipsis⟩
  · cases read : CType.parseChars piece with
    | error error =>
        obtain ⟨unread, _⟩ := CType.parseChars_eq_error_iff.mp read
        exact .inr ⟨_, .untyped isEllipsis unread⟩
    | ok type =>
        by_cases isVoid : type = .void
        · exact .inr ⟨_, .void (isVoid ▸ read)⟩
        · exact .inl ⟨type, read, isVoid⟩

theorem parsePieces_typed {typed : List (List Char)} (read : List.Forall₂ IsParam typed params) :
    parsePieces text (typed ++ if variadic then [ellipsis] else []) = .ok (params, variadic) := by
  induction read with
  | nil => cases variadic <;> rfl
  | @cons piece type typed params isParam _ induction =>
      have other : piece ≠ ellipsis := by
        rintro rfl
        exact not_isParam_ellipsis isParam
      rw [List.cons_append, parsePieces_cons _ other, parseParam_eq_ok_iff.mpr isParam, induction]
      rfl

theorem parsePieces_of_firstOffence (trimmed : ∀ piece ∈ pieces, Text.trim piece = piece)
    (offence : FirstOffence text pieces error) : parsePieces text pieces = .error error := by
  obtain @⟨earlier, piece, later, cut, params, offends, misplaced⟩ := offence
  subst cut
  induction earlier with
  | nil =>
      have refused := parseParam_of_offends (trimmed piece List.mem_cons_self) offends
      by_cases isEllipsis : piece = ellipsis
      · obtain ⟨next, rest, rfl⟩ := List.exists_cons_of_ne_nil (misplaced isEllipsis)
        change parseParam text piece >>= _ = _
        rw [refused]
        rfl
      · rw [List.nil_append, parsePieces_cons _ isEllipsis, refused]
        rfl
  | cons first earlier induction =>
      obtain ⟨⟨type, isParam⟩, others⟩ := List.forall_mem_cons.mp params
      have other : first ≠ ellipsis := by
        rintro rfl
        exact not_isParam_ellipsis isParam
      have rest := induction others (List.forall_mem_cons.mp trimmed).2
      rw [List.cons_append, parsePieces_cons _ other, parseParam_eq_ok_iff.mpr isParam, rest]
      rfl

/-- A list of pieces is one of parameters, or has a first piece that is none. -/
theorem typed_or_firstOffence (text : String) (pieces : List (List Char)) :
    (∃ (typed : _) (params : _) (variadic : Bool),
        pieces = typed ++ (if variadic then [ellipsis] else []) ∧
        List.Forall₂ IsParam typed params) ∨ ∃ error, FirstOffence text pieces error := by
  induction pieces with
  | nil => exact .inl ⟨[], [], false, rfl, .nil⟩
  | cons piece rest induction =>
      rcases isParam_or_offends text piece with ⟨type, isParam⟩ | ⟨error, offends⟩
      · rcases induction with ⟨typed, params, variadic, rfl, read⟩ | ⟨error, offence⟩
        · exact .inl ⟨piece :: typed, type :: params, variadic, rfl, .cons isParam read⟩
        · obtain ⟨rfl, params, offends, misplaced⟩ := offence
          refine .inr ⟨error, .behind (List.cons_append ..).symm ?_ offends misplaced⟩
          exact List.forall_mem_cons.mpr ⟨⟨type, isParam⟩, params⟩
      · by_cases closing : piece = ellipsis ∧ rest = []
        · obtain ⟨rfl, rfl⟩ := closing
          exact .inl ⟨[], [], true, rfl, .nil⟩
        · refine .inr ⟨error, .behind (List.nil_append _).symm nofun offends ?_⟩
          exact fun isEllipsis empty => closing ⟨isEllipsis, empty⟩

theorem isParam_of_mem {typed : List (List Char)} (read : List.Forall₂ IsParam typed params)
    (listed : piece ∈ typed ++ if variadic then [ellipsis] else []) :
    piece = ellipsis ∨ ∃ type, IsParam piece type := by
  induction read with
  | nil =>
      cases variadic with
      | false => cases listed
      | true => exact .inl (List.mem_singleton.mp listed)
  | @cons first type typed params isParam _ induction =>
      rcases List.mem_cons.mp listed with rfl | inRest
      · exact .inr ⟨type, isParam⟩
      · exact induction inRest

theorem parseParams_of_params (listed : Params inner params variadic) :
    parseParams text inner = .ok (params, variadic) := by
  rw [parseParams]
  cases listed with
  | nothing empty => exact if_pos (.inl empty)
  | void alone => exact if_pos (.inr alone)
  | @pieces typed _ _ cut read =>
      have split := pieces_iff.mp cut
      have filled : Text.trim inner ≠ [] := by
        intro empty
        rw [empty] at split
        have single : [] ∈ typed ++ if variadic then [ellipsis] else [] := by
          rw [← split]
          exact List.mem_singleton.mpr rfl
        rcases isParam_of_mem read single with isEllipsis | ⟨type, read, _⟩
        · cases isEllipsis
        · cases read
      have notVoid : Text.trim inner ≠ "void".toList := by
        intro alone
        rw [alone] at split
        have single : "void".toList ∈ typed ++ if variadic then [ellipsis] else [] := by
          rw [← split]
          exact List.mem_singleton.mpr rfl
        rcases isParam_of_mem read single with isEllipsis | ⟨type, read, other⟩
        · cases isEllipsis
        · exact other (Except.ok.inj read).symm
      refine (if_neg (not_or.mpr ⟨filled, notVoid⟩)).trans ?_
      rw [split, parsePieces_typed read]

theorem parseParams_of_firstOffence (filled : Text.trim inner ≠ [])
    (notVoid : Text.trim inner ≠ "void".toList) (cut : Pieces (Text.trim inner) pieces)
    (offence : FirstOffence text pieces error) : parseParams text inner = .error error := by
  rw [parseParams]
  refine (if_neg (not_or.mpr ⟨filled, notVoid⟩)).trans ?_
  rw [pieces_iff.mp cut, parsePieces_of_firstOffence (fun _ => cut.trimmed) offence]

theorem params_or_firstOffence (text : String) (inner : List Char) :
    (∃ params variadic, Params inner params variadic) ∨
      ∃ pieces error, Text.trim inner ≠ [] ∧ Text.trim inner ≠ "void".toList ∧
        Pieces (Text.trim inner) pieces ∧ FirstOffence text pieces error := by
  by_cases empty : Text.trim inner = []
  · exact .inl ⟨_, _, .nothing empty⟩
  by_cases alone : Text.trim inner = "void".toList
  · exact .inl ⟨_, _, .void alone⟩
  have cut := pieces_iff.mpr (rfl : ((Text.trim inner).splitOn ',').map Text.trim = _)
  rcases typed_or_firstOffence text (((Text.trim inner).splitOn ',').map Text.trim) with
    ⟨typed, params, variadic, split, read⟩ | ⟨error, offence⟩
  · exact .inl ⟨params, variadic, .pieces (split ▸ cut) read⟩
  · exact .inr ⟨_, error, empty, alone, cut, offence⟩

/-! The frame around the list. -/

theorem ne_open (noneBefore : '(' ∉ before) : ∀ char ∈ before, (char != '(') = true := by
  intro char member
  rw [bne_iff_ne]
  rintro rfl
  exact noneBefore member

theorem takeWhile_open (noneBefore : '(' ∉ before) (rest : List Char) :
    (before ++ '(' :: rest).takeWhile (· != '(') = before ∧
      (before ++ '(' :: rest).dropWhile (· != '(') = '(' :: rest := by
  have stop : ∀ char ∈ ('(' :: rest).head?, (char != '(') = false := by
    simp
  exact ⟨Text.takeWhile_run (ne_open noneBefore) _ stop,
    Text.dropWhile_run (ne_open noneBefore) _ stop⟩

theorem parse_unopened (unopened : '(' ∉ Text.trim text.toList) :
    parse text = .error (.notASignature text .missingOpen) := by
  have nothing := Text.dropWhile_run (ne_open unopened) [] nofun
  rw [List.append_nil] at nothing
  simp only [parse, nothing]

theorem parse_unclosed (opened : Opened text before after) (unclosed : after.getLast? ≠ some ')') :
    parse text = .error (.notASignature text .missingClose) := by
  obtain ⟨_, cut⟩ := takeWhile_open opened.first after
  simp only [parse, opened.whole, cut, if_pos unclosed]

/-- What the reader does once the text is `before(inner)`. -/
theorem parse_closed (opened : Opened text before (inner ++ [')'])) :
    parse text =
      if (inner.any fun char => char == '(' || char == ')') = true then
        .error (.notASignature text .nestedParentheses)
      else if Text.trim before = [] then .error (.notASignature text .missingReturnType)
      else (do
        let ret ← CType.parseChars before
        let (params, variadic) ← parseParams text inner
        .ok ⟨ret, params, variadic⟩) := by
  obtain ⟨taken, cut⟩ := takeWhile_open opened.first (inner ++ [')'])
  simp only [parse, opened.whole, taken, cut, List.getLast?_concat, List.dropLast_concat,
    ne_eq, not_true_eq_false, ↓reduceIte]

theorem any_parenthesis_iff :
    (inner.any fun char => char == '(' || char == ')') = true ↔ '(' ∈ inner ∨ ')' ∈ inner := by
  simp only [List.any_eq_true, Bool.or_eq_true, beq_iff_eq]
  constructor
  · rintro ⟨char, member, rfl | rfl⟩
    · exact .inl member
    · exact .inr member
  · rintro (member | member)
    · exact ⟨_, member, .inl rfl⟩
    · exact ⟨_, member, .inr rfl⟩

theorem parse_framed (framed : Framed text before inner) (filled : Text.trim before ≠ []) :
    parse text = (do
      let ret ← CType.parseChars before
      let (params, variadic) ← parseParams text inner
      .ok ⟨ret, params, variadic⟩) := by
  have flat : ¬ (inner.any fun char => char == '(' || char == ')') = true := by
    rw [any_parenthesis_iff, not_or]
    exact framed.flat
  rw [parse_closed framed.opened, if_neg flat, if_neg filled]

theorem parse_of_written (written : Written text signature) : parse text = .ok signature := by
  obtain ⟨framed, filled, returns, listed⟩ := written
  rw [parse_framed framed filled, returns]
  simp only [bind, Except.bind, parseParams_of_params listed]

theorem parse_of_refused (refused : Refused text error) : parse text = .error error := by
  cases refused with
  | missingOpen unopened => exact parse_unopened unopened
  | missingClose opened unclosed => exact parse_unclosed opened unclosed
  | nested opened nested => rw [parse_closed opened, if_pos (any_parenthesis_iff.mpr nested)]
  | missingReturn framed empty =>
      have flat := any_parenthesis_iff.not.mpr (not_or.mpr framed.flat)
      rw [parse_closed framed.opened, if_neg flat, if_pos empty]
  | untypedReturn framed filled unread =>
      rw [parse_framed framed filled, CType.parseChars_eq_error_iff.mpr ⟨unread, rfl⟩]
      rfl
  | parameter framed filled returns nonempty notVoid cut offence =>
      rw [parse_framed framed filled, returns]
      simp only [bind, Except.bind, parseParams_of_firstOffence nonempty notVoid cut offence]

/-- Some check fails, or the text is a signature. -/
theorem written_or_refused (text : String) :
    (∃ signature, Written text signature) ∨ ∃ error, Refused text error := by
  by_cases opening : '(' ∈ Text.trim text.toList
  swap
  · exact .inr ⟨_, .missingOpen opening⟩
  obtain ⟨before, after, whole, first⟩ := List.eq_append_cons_of_mem opening
  have opened : Opened text before after := ⟨whole, first⟩
  by_cases closing : after.getLast? = some ')'
  swap
  · exact .inr ⟨_, .missingClose opened closing⟩
  obtain ⟨inner, rfl⟩ := List.getLast?_eq_some_iff.mp closing
  by_cases nested : '(' ∈ inner ∨ ')' ∈ inner
  · exact .inr ⟨_, .nested opened nested⟩
  have framed : Framed text before inner := ⟨opened, not_or.mp nested⟩
  by_cases filled : Text.trim before = []
  · exact .inr ⟨_, .missingReturn framed filled⟩
  cases returns : CType.parseChars before with
  | error error =>
      obtain ⟨unread, _⟩ := CType.parseChars_eq_error_iff.mp returns
      exact .inr ⟨_, .untypedReturn framed filled unread⟩
  | ok ret =>
      rcases params_or_firstOffence text inner with
        ⟨params, variadic, listed⟩ | ⟨pieces, error, nonempty, notVoid, cut, offence⟩
      · exact .inl ⟨_, .frame framed filled returns listed⟩
      · exact .inr ⟨error, .parameter framed filled returns nonempty notVoid cut offence⟩

/-- A text is read as a signature exactly when it is written as one, and it is refused for
the first check that it fails. -/
theorem parse_iff_written_or_refused (text : String) :
    (∀ signature, parse text = .ok signature ↔ Written text signature) ∧
      ∀ error, parse text = .error error ↔ Refused text error := by
  refine ⟨fun signature => ⟨fun read => ?_, parse_of_written⟩,
    fun error => ⟨fun failed => ?_, parse_of_refused⟩⟩
  · rcases written_or_refused text with ⟨other, written⟩ | ⟨error, refused⟩
    · obtain rfl : signature = other := Except.ok.inj (read.symm.trans (parse_of_written written))
      exact written
    · cases read.symm.trans (parse_of_refused refused)
  · rcases written_or_refused text with ⟨signature, written⟩ | ⟨other, refused⟩
    · cases failed.symm.trans (parse_of_written written)
    · obtain rfl : error = other := Except.error.inj (failed.symm.trans (parse_of_refused refused))
      exact refused

/-- The first of several faults. -/
example : parse " i32( u8 , void , ..., i9) " =
    .error (.notASignature " i32( u8 , void , ..., i9) " .voidParameter) := by
  decide

end Signature

end PortableC
