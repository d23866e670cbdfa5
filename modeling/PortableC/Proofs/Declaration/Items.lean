import PortableC.Proofs.Checks
import PortableC.Proofs.Declaration.Tokens
import PortableC.Proofs.Source.Item

namespace PortableC

/-! The item that is read off the line of a declaration. -/

open Source (Token Item IsPlain TypedName)

namespace Source

/-- Neither a word nor a star comes next, so a type ends here. -/
def EndsType (rest : List Token) : Prop :=
  ∀ token ∈ rest.head?, token.word? = none ∧ token ≠ .sign '*'

theorem splitWords_words (words : List String) (rest : List Token)
    (stop : ∀ token ∈ rest.head?, token.word? = none) :
    splitWords (words.map .word ++ rest) = (words, rest) := by
  induction words with
  | nil =>
      cases rest with
      | nil => rfl
      | cons token rest =>
          have noWord := stop token rfl
          cases token with
          | word text => simp [Token.word?] at noWord
          | directive _ | literal _ | sign _ | newline => rfl
  | cons word words induction => simp [splitWords, induction]

theorem dropStars_replicate (count : Nat) (rest : List Token)
    (stop : ∀ token ∈ rest.head?, token ≠ .sign '*') :
    dropStars (List.replicate count (Token.sign '*') ++ rest) = rest := by
  induction count with
  | zero =>
      cases rest with
      | nil => rfl
      | cons token rest =>
          rw [List.replicate_zero, List.nil_append, dropStars]
          rintro _ ⟨⟩
          exact stop _ rfl rfl
  | succ count induction => simpa [List.replicate_succ, dropStars] using induction

theorem EndsType.ne_word {rest : List Token} (ends : EndsType rest) (name : String)
    (after : List Token) : rest ≠ .word name :: after := by
  rintro rfl
  simpa [Token.word?] using (ends _ rfl).1

theorem EndsType.head_ne_star {rest : List Token} (ends : EndsType rest) :
    rest.head? ≠ some (.sign '*') :=
  fun starred => (ends _ starred).2 rfl

theorem TypedName.read_unnamed (word : String) (stars : Nat) (rest : List Token)
    (ends : EndsType rest) :
    TypedName.read (.word word :: (List.replicate stars (Token.sign '*') ++ rest)) =
      ⟨word, none, rest⟩ := by
  have dropped := dropStars_replicate stars rest fun token member => (ends token member).2
  have words := splitWords_words [word] (List.replicate stars (Token.sign '*') ++ rest) (by
    cases stars with
    | zero => exact fun token member => (ends token member).1
    | succ count => simp [List.replicate_succ, Token.word?])
  simp only [List.map_cons, List.map_nil, List.cons_append, List.nil_append] at words
  cases stars with
  | zero =>
      simp only [List.replicate_zero, List.nil_append] at words dropped
      simp [TypedName.read, words, dropped, ends.ne_word, ends.head_ne_star, TypedName.ofWords]
  | succ count =>
      simp only [List.replicate_succ, List.cons_append] at words dropped
      simp [TypedName.read, List.replicate_succ, words, dropped, ends.ne_word]

theorem TypedName.read_words {words : List String} (filled : words ≠ []) (name : String)
    (rest : List Token) (ends : EndsType rest) :
    TypedName.read (words.map .word ++ .word name :: rest) =
      ⟨" ".intercalate words, some name, rest⟩ := by
  have split := splitWords_words (words ++ [name]) rest fun token member => (ends token member).1
  have dropped := dropStars_replicate 0 rest fun token member => (ends token member).2
  simp only [List.map_append, List.map_cons, List.map_nil, List.append_assoc, List.cons_append,
    List.nil_append, List.replicate_zero] at split dropped
  simp [TypedName.read, split, dropped, ends.ne_word, ends.head_ne_star, TypedName.ofWords,
    filled]

theorem TypedName.read_named (word : String) (stars : Nat) (name : String) (rest : List Token)
    (ends : EndsType rest) :
    TypedName.read (.word word :: (List.replicate stars (Token.sign '*') ++ .word name :: rest)) =
      ⟨word, some name, rest⟩ := by
  cases stars with
  | zero => simpa using TypedName.read_words (List.cons_ne_nil word []) name rest ends
  | succ count =>
      have words := splitWords_words [word]
        (List.replicate (count + 1) (Token.sign '*') ++ .word name :: rest)
        (by simp [List.replicate_succ, Token.word?])
      have dropped := dropStars_replicate (count + 1) (.word name :: rest) (by simp)
      simp only [List.map_cons, List.map_nil, List.cons_append, List.nil_append,
        List.replicate_succ] at words dropped
      simp [TypedName.read, List.replicate_succ, words, dropped]

end Source

theorem CType.pieceType?_tokens (type : CType) :
    Source.pieceType? type.tokens = some [type.base.spelling] := by
  have read := Source.TypedName.read_unnamed type.base.spelling type.stars [] nofun
  rw [List.append_nil] at read
  simp [Source.pieceType?, CType.tokens, read]

theorem CType.isPlain_tokens (type : CType) : IsPlain type.tokens := by
  intro token member
  rcases List.mem_cons.mp member with rfl | isStar
  · simp
  · rw [List.eq_of_mem_replicate isStar]
    decide

namespace Signature

variable {signature : Signature} {token : Token}

theorem mem_parameterTokens (listed : token ∈ signature.parameterTokens) :
    (∃ base : BaseType, token = .word base.spelling) ∨
      ∃ char ∈ [',', '*', '.'], token = .sign char := by
  simp only [parameterTokens] at listed
  split at listed
  · exact .inl ⟨.void, List.mem_singleton.mp listed⟩
  · rcases Text.mem_intercalate listed with comma | ⟨piece, inPieces, inPiece⟩
    · exact .inr ⟨',', by decide, List.mem_singleton.mp comma⟩
    · rcases List.mem_append.mp inPieces with isParam | isEllipsis
      · obtain ⟨param, _, rfl⟩ := List.mem_map.mp isParam
        rcases List.mem_cons.mp inPiece with isBase | isStar
        · exact .inl ⟨param.base, isBase⟩
        · exact .inr ⟨'*', by decide, List.eq_of_mem_replicate isStar⟩
      · split at isEllipsis
        · rw [List.mem_singleton.mp isEllipsis] at inPiece
          exact .inr ⟨'.', by decide, List.eq_of_mem_replicate (n := 3) inPiece⟩
        · simp at isEllipsis

theorem isPlain_parameterTokens (signature : Signature) : IsPlain signature.parameterTokens := by
  intro token listed
  rcases mem_parameterTokens listed with ⟨base, rfl⟩ | ⟨char, isSign, rfl⟩
  · simp
  · simp only [List.mem_cons, List.not_mem_nil, or_false] at isSign
    rcases isSign with rfl | rfl | rfl <;> decide

theorem comma_not_mem_pieceTokens : ∀ piece ∈ signature.pieceTokens, .sign ',' ∉ piece := by
  intro piece listed
  rcases List.mem_append.mp listed with isParam | isEllipsis
  · obtain ⟨param, _, rfl⟩ := List.mem_map.mp isParam
    simp [CType.tokens, List.mem_replicate]
  · split at isEllipsis
    · rw [List.mem_singleton.mp isEllipsis]
      decide
    · simp at isEllipsis

def parameterTypes (signature : Signature) : List String :=
  if signature.pieces.isEmpty then ["void"]
  else signature.params.map fun param => param.base.spelling

theorem mapM_pieceTokens (signature : Signature) :
    signature.pieceTokens.mapM Source.pieceType? =
      some (signature.params.map (fun param => [param.base.spelling]) ++
        if signature.variadic then [[]] else []) := by
  have params : (signature.params.map CType.tokens).mapM Source.pieceType? =
      some (signature.params.map fun param => [param.base.spelling]) := by
    rw [List.mapM_map]
    exact mapM_eq_some fun param _ => param.pieceType?_tokens
  rw [pieceTokens, List.mapM_append, params]
  cases signature.variadic <;> rfl

theorem pieceTokens_ne_nil (filled : ¬ signature.pieces.isEmpty) : signature.pieceTokens ≠ [] := by
  obtain ⟨ret, params, variadic⟩ := signature
  cases params <;> cases variadic <;> simp_all [pieces, pieceTokens]

theorem parameterTokens_ne_nil (signature : Signature) : signature.parameterTokens ≠ [] := by
  obtain ⟨ret, params, variadic⟩ := signature
  cases params with
  | nil => cases variadic <;> simp [parameterTokens, pieces, pieceTokens, ellipsisTokens]
  | cons param params =>
      simp [parameterTokens, pieces, pieceTokens, Text.intercalate_cons, CType.tokens]

theorem parameterTokens_open (signature : Signature) :
    ∀ token ∈ signature.parameterTokens, (token != .sign ')') = true := by
  intro token listed
  rcases mem_parameterTokens listed with ⟨base, rfl⟩ | ⟨char, isSign, rfl⟩
  · rfl
  · have isOther : (Token.sign char != .sign ')') = true :=
      List.all_eq_true.mp (by decide : [',', '*', '.'].all (Token.sign · != .sign ')') = true)
        char isSign
    exact isOther

theorem parameterTypes?_tokens (signature : Signature) :
    Source.parameterTypes? (signature.parameterTokens ++ [Token.sign ')', .sign ';']) =
      some signature.parameterTypes := by
  have list := Text.takeWhile_run signature.parameterTokens_open [.sign ')', .sign ';'] (by simp)
  have after := Text.dropWhile_run signature.parameterTokens_open [.sign ')', .sign ';'] (by simp)
  have types : ((signature.parameterTokens.splitOn (.sign ',')).mapM Source.pieceType?).map
      List.flatten = some signature.parameterTypes := by
    simp only [parameterTokens, parameterTypes]
    split
    · rfl
    · rename_i filled
      rw [List.splitOn_intercalate _ comma_not_mem_pieceTokens (pieceTokens_ne_nil filled),
        mapM_pieceTokens]
      have flattened : (signature.params.map fun param => [param.base.spelling]).flatten =
          signature.params.map fun param => param.base.spelling := by
        rw [← List.flatMap_def, List.map_eq_flatMap]
      cases signature.variadic <;> simp [flattened]
  simp only [Source.parameterTypes?, list, after, signature.parameterTokens_ne_nil, types,
    true_or, ↓reduceIte]

end Signature

namespace Dialect

def parameterTypes (dialect : Dialect) (signature : Signature) : List String :=
  if signature.variadic && signature.params.isEmpty && !dialect.allowsBareEllipsis then []
  else signature.parameterTypes

theorem mem_parameterTokens {dialect : Dialect} {signature : Signature} {token : Token}
    (listed : token ∈ dialect.parameterTokens signature) :
    token ∈ signature.parameterTokens := by
  simp only [parameterTokens] at listed
  split at listed
  · simp at listed
  · exact listed

theorem parameterTypes?_tokens (dialect : Dialect) (signature : Signature) :
    Source.parameterTypes? (dialect.parameterTokens signature ++ [Token.sign ')', .sign ';']) =
      some (dialect.parameterTypes signature) := by
  simp only [parameterTokens, parameterTypes]
  split
  · rfl
  · exact signature.parameterTypes?_tokens

theorem mem_parameterTypes {dialect : Dialect} {signature : Signature} {type : String}
    (mentioned : type ∈ dialect.parameterTypes signature) :
    ∃ base : BaseType, type = base.spelling := by
  simp only [parameterTypes, Signature.parameterTypes] at mentioned
  split at mentioned
  · simp at mentioned
  · split at mentioned
    · exact ⟨.void, List.mem_singleton.mp mentioned⟩
    · obtain ⟨param, _, rfl⟩ := List.mem_map.mp mentioned
      exact ⟨param.base, rfl⟩

end Dialect

namespace Declaration

/-- The name that a declaration declares, with the types that it is made of. -/
def item (dialect : Dialect) : Declaration → Item
  | .typedef target name => ⟨"typedef", name, [target]⟩
  | .pointer name signature =>
      ⟨"typedef", name, signature.ret.base.spelling :: dialect.parameterTypes signature⟩
  | .external name signature =>
      ⟨"extern", name, signature.ret.base.spelling :: signature.parameterTypes⟩

theorem intercalate_targetWords (target : String) :
    " ".intercalate (targetWords target) = target := by
  apply String.toList_inj.mp
  rw [String.toList_intercalate]
  simp only [targetWords, List.map_map, Function.comp_def, String.toList_ofList, List.map_id']
  exact List.intercalate_splitOn ' '

/-- The type that a line begins with, behind its storage class, and the name that comes
next. -/
def typedName (dialect : Dialect) : Declaration → TypedName
  | .typedef target name => ⟨target, some name, [.sign ';']⟩
  | .pointer name signature =>
      ⟨signature.ret.base.spelling, none, [.sign '(', .sign '*', .word name, .sign ')',
        .sign '('] ++ (dialect.parameterTokens signature ++ [.sign ')', .sign ';'])⟩
  | .external name signature =>
      ⟨signature.ret.base.spelling, some name,
        .sign '(' :: (signature.parameterTokens ++ [.sign ')', .sign ';'])⟩

theorem read_tokens (dialect : Dialect) (declared : Declaration) :
    TypedName.read (Item.storageOf (declared.tokens dialect)).2 = declared.typedName dialect := by
  cases declared with
  | typedef target name =>
      have filled : targetWords target ≠ [] := by simp [targetWords, List.splitOn_ne_nil]
      have read := TypedName.read_words filled name [.sign ';']
        (by simp [Source.EndsType, Token.word?])
      rw [intercalate_targetWords] at read
      simpa [tokens, Item.storageOf, typedName] using read
  | pointer name signature =>
      have read := TypedName.read_unnamed signature.ret.base.spelling signature.ret.stars
        ([Token.sign '(', .sign '*', .word name, .sign ')', .sign '('] ++
          (dialect.parameterTokens signature ++ [Token.sign ')', .sign ';']))
        (by simp [Source.EndsType, Token.word?])
      simpa [tokens, CType.tokens, Item.storageOf, typedName] using read
  | external name signature =>
      have read := TypedName.read_named signature.ret.base.spelling signature.ret.stars name
        (.sign '(' :: (signature.parameterTokens ++ [Token.sign ')', .sign ';']))
        (by simp [Source.EndsType, Token.word?])
      cases dialect <;>
        simpa [tokens, CType.tokens, Dialect.storageTokens, Item.storageOf, typedName] using read

theorem storageOf_tokens (dialect : Dialect) (declared : Declaration) :
    (Item.storageOf (declared.tokens dialect)).1 = (declared.item dialect).storage := by
  cases declared with
  | typedef _ _ | pointer _ _ => rfl
  | external _ _ => cases dialect <;> rfl

theorem read?_tokens (dialect : Dialect) (declared : Declaration) :
    Item.read? (declared.tokens dialect) = some (declared.item dialect) := by
  simp only [Item.read?, read_tokens, storageOf_tokens]
  cases declared with
  | typedef target name => rfl
  | pointer name signature =>
      simp [typedName, item, dialect.parameterTypes?_tokens signature]
  | external name signature => simp [typedName, item, signature.parameterTypes?_tokens]

theorem isPlain_tokens (dialect : Dialect) (declared : Declaration) :
    IsPlain (declared.tokens dialect) := by
  cases declared with
  | typedef target name => simp [tokens, Source.isPlain_words]
  | pointer name signature =>
      have parameters : IsPlain (dialect.parameterTokens signature) := fun token listed =>
        signature.isPlain_parameterTokens token (Dialect.mem_parameterTokens listed)
      simp [tokens, signature.ret.isPlain_tokens, parameters]
  | external name signature =>
      cases dialect <;>
        simp [tokens, Dialect.storageTokens, signature.ret.isPlain_tokens,
          signature.isPlain_parameterTokens]

end Declaration

end PortableC
