import PortableC.Declaration
import PortableC.Proofs.Signature.Spelling
import PortableC.Proofs.Source.Token

namespace PortableC

/-! The tokens of the lines that declare something. -/

open Source (Token Reads ReadsLine isSign)
open Text (isIdentifierPart isWord Palette)

theorem BaseType.isWord_spelling (base : BaseType) : isWord base.spelling.toList = true :=
  forall_of_all (motive := fun base => isWord base.spelling.toList = true) (by decide) base

namespace CType

def tokens (type : CType) : List Token :=
  .word type.base.spelling :: List.replicate type.stars (.sign '*')

theorem reads_spelling (type : CType) : Reads type.spelling.toList type.tokens := by
  intro next rest isBreak
  have stars := Source.reads_signs (List.replicate type.stars '*')
    (fun char member => by rw [List.eq_of_mem_replicate member]; decide) next rest isBreak
  rw [List.map_replicate] at stars
  simp only [toList_spelling, tokens, List.append_assoc, List.cons_append]
  cases found : type.stars with
  | zero => simpa using Source.tokens_word type.base.isWord_spelling isBreak
  | succ count =>
      rw [found] at stars
      rw [List.replicate_succ, List.cons_append,
        Source.tokens_word type.base.isWord_spelling (by decide), ← stars]
      rfl

end CType

namespace Signature

def ellipsisTokens : List Token :=
  [.sign '.', .sign '.', .sign '.']

def pieceReadings (signature : Signature) : List (List Char × List Token) :=
  signature.params.map (fun param => (param.spelling.toList, param.tokens)) ++
    if signature.variadic then [(ellipsis, ellipsisTokens)] else []

def pieceTokens (signature : Signature) : List (List Token) :=
  signature.params.map CType.tokens ++ if signature.variadic then [ellipsisTokens] else []

def parameterTokens (signature : Signature) : List Token :=
  if signature.pieces.isEmpty then [.word "void"]
  else [.sign ','].intercalate signature.pieceTokens

theorem reads_parameterText (signature : Signature) :
    Reads signature.parameterText.toList signature.parameterTokens := by
  have each : ∀ piece ∈ signature.pieceReadings, Reads piece.1 piece.2 := by
    intro piece listed
    rcases List.mem_append.mp listed with isParam | isEllipsis
    · obtain ⟨param, _, rfl⟩ := List.mem_map.mp isParam
      exact param.reads_spelling
    · split at isEllipsis
      · rw [List.mem_singleton.mp isEllipsis]
        exact Source.reads_signs ellipsis (List.all_eq_true.mp (by decide))
      · simp at isEllipsis
  have texts : signature.pieceReadings.map Prod.fst = signature.pieceChars := by
    simp only [pieceReadings, pieceChars_eq, List.map_append, List.map_map]
    congr 1
    split <;> rfl
  have read : signature.pieceReadings.map Prod.snd = signature.pieceTokens := by
    simp only [pieceReadings, pieceTokens, List.map_append, List.map_map]
    congr 1
    split <;> rfl
  simp only [parameterText, parameterTokens]
  split
  · exact Source.reads_word (by decide)
  · have joined := Source.reads_joined each
    rw [texts, read] at joined
    rw [String.toList_intercalate]
    exact joined

end Signature

/-- The tokens between the parentheses of a function pointer's declaration. -/
def Dialect.parameterTokens (dialect : Dialect) (signature : Signature) : List Token :=
  if signature.variadic && signature.params.isEmpty && !dialect.allowsBareEllipsis then []
  else signature.parameterTokens

theorem Dialect.reads_parameterText (dialect : Dialect) (signature : Signature) :
    Reads (dialect.parameterText signature).toList (dialect.parameterTokens signature) := by
  simp only [Dialect.parameterText, Dialect.parameterTokens]
  split
  · exact fun _ _ _ => rfl
  · exact signature.reads_parameterText

def Dialect.storageTokens : Dialect → List Token
  | .c => [.word "extern"]
  | .cxx => [.word "extern", .literal "C"]

theorem Dialect.tokens_unmangledStorage (dialect : Dialect) (rest : List Char) :
    Source.tokens (dialect.unmangledStorage.toList ++ ' ' :: rest) =
      dialect.storageTokens ++ Source.tokens rest := by
  cases dialect with
  | c => exact Source.reads_word (by decide) ' ' rest (by decide)
  | cxx =>
      have ran : Source.run .between "extern \"C\"".toList =
          ([.word "extern", .literal "C"], .between) := by decide
      exact Source.tokens_append ran

namespace Declaration

def targetWords (target : String) : List String :=
  (target.toList.splitOn ' ').map String.ofList

def tokens (dialect : Dialect) : Declaration → List Token
  | .typedef target name =>
      .word "typedef" :: (targetWords target).map .word ++ [.word name, .sign ';']
  | .pointer name signature =>
      .word "typedef" :: signature.ret.tokens ++
        [.sign '(', .sign '*', .word name, .sign ')', .sign '('] ++
        dialect.parameterTokens signature ++ [.sign ')', .sign ';']
  | .external name signature =>
      dialect.storageTokens ++ signature.ret.tokens ++ [.word name, .sign '('] ++
        signature.parameterTokens ++ [.sign ')', .sign ';']

def WellSpelled : Declaration → Prop
  | .typedef target name =>
      (∀ word ∈ targetWords target, isWord word.toList = true) ∧ isWord name.toList = true
  | .pointer name _ => isWord name.toList = true
  | .external name _ => isWord name.toList = true

theorem targetWords_of_isWord {word : String} (isWord_word : isWord word.toList = true) :
    targetWords word = [word] := by
  have whole : ' ' ∉ word.toList := fun member =>
    absurd (Source.isIdentifierPart_of_isWord isWord_word ' ' member) (by decide)
  simp [targetWords, List.splitOn_eq_singleton whole]

theorem reads_target {target : String}
    (areWords : ∀ word ∈ targetWords target, isWord word.toList = true) :
    Reads target.toList ((targetWords target).map .word) := by
  have read := Source.reads_words areWords
  have words : (targetWords target).map String.toList = target.toList.splitOn ' ' := by
    simp [targetWords, Function.comp_def]
  rwa [words, List.intercalate_splitOn] at read

theorem readsLine {dialect : Dialect} {declared : Declaration}
    (wellSpelled : declared.WellSpelled) :
    ReadsLine ((declared.line dialect).render Palette.uncolored).toList
      (declared.tokens dialect) := by
  intro rest
  have typedef : Reads "typedef".toList [.word "typedef"] := Source.reads_word (by decide)
  cases declared with
  | typedef target name =>
      obtain ⟨areWords, isName⟩ := wellSpelled
      have chars : ((line dialect (.typedef target name)).render Palette.uncolored).toList ++
          '\n' :: rest = "typedef".toList ++ ' ' :: (target.toList ++ ' ' ::
            (name.toList ++ ';' :: '\n' :: rest)) := by
        simp [line, Text.Line.render]
      rw [chars, typedef _ _ (by decide), Source.tokens_space,
        reads_target areWords _ _ (by decide), Source.tokens_space,
        Source.tokens_word isName (by decide), Source.tokens_sign (by decide),
        Source.tokens_newline]
      simp [tokens]
  | pointer name signature =>
      have chars : ((line dialect (.pointer name signature)).render Palette.uncolored).toList ++
          '\n' :: rest = "typedef".toList ++ ' ' :: (signature.ret.spelling.toList ++ ' ' ::
            '(' :: '*' :: (name.toList ++ ')' :: '(' ::
              ((dialect.parameterText signature).toList ++ ')' :: ';' :: '\n' :: rest))) := by
        simp [line, Text.Line.render]
      rw [chars, typedef _ _ (by decide), Source.tokens_space,
        signature.ret.reads_spelling _ _ (by decide), Source.tokens_space,
        Source.tokens_sign (by decide), Source.tokens_sign (by decide),
        Source.tokens_word wellSpelled (by decide), Source.tokens_sign (by decide),
        Source.tokens_sign (by decide), dialect.reads_parameterText _ _ _ (by decide),
        Source.tokens_sign (by decide), Source.tokens_sign (by decide), Source.tokens_newline]
      simp [tokens]
  | external name signature =>
      have chars : ((line dialect (.external name signature)).render Palette.uncolored).toList ++
          '\n' :: rest = dialect.unmangledStorage.toList ++ ' ' ::
            (signature.ret.spelling.toList ++ ' ' :: (name.toList ++ '(' ::
              (signature.parameterText.toList ++ ')' :: ';' :: '\n' :: rest))) := by
        simp [line, Text.Line.render]
      rw [chars, dialect.tokens_unmangledStorage, signature.ret.reads_spelling _ _ (by decide),
        Source.tokens_space, Source.tokens_word wellSpelled (by decide),
        Source.tokens_sign (by decide), signature.reads_parameterText _ _ (by decide),
        Source.tokens_sign (by decide), Source.tokens_sign (by decide), Source.tokens_newline]
      simp [tokens]

end Declaration

end PortableC
