import PortableC.Proofs.Declaration.Items

namespace PortableC

/-! The names that a source text gives to parameters.

They are read off the same lines as the declarations.  The lines of a prologue give
no parameter a name.
-/

open Source (Token TypedName)

namespace Source

/-- The names in a parameter list, from behind its opening parenthesis. -/
def listedNames (tokens : List Token) : List String :=
  ((tokens.takeWhile (· != .sign ')')).splitOn (.sign ',')).filterMap
    fun piece => (TypedName.read piece).name

/-- The names of the parameters of the function, or of the pointer to functions, that a
line declares. -/
def lineParameters (line : List Token) : List String :=
  let declared := TypedName.read (Item.storageOf line).2
  match declared.name, declared.rest with
  | some _, .sign '(' :: rest => listedNames rest
  | none, .sign '(' :: .sign '*' :: .word _ :: .sign ')' :: .sign '(' :: rest => listedNames rest
  | _, _ => []

def parameterNames (text : List Char) : List String :=
  (declarationLines (tokens text)).flatMap lineParameters

end Source

theorem CType.read_tokens_name (type : CType) : (TypedName.read type.tokens).name = none := by
  have read := TypedName.read_unnamed type.base.spelling type.stars [] nofun
  rw [List.append_nil] at read
  rw [CType.tokens, read]

theorem Signature.listedNames_tokens (signature : Signature) :
    Source.listedNames (signature.parameterTokens ++ [Token.sign ')', .sign ';']) = [] := by
  rw [Source.listedNames, Text.takeWhile_run signature.parameterTokens_open _ (by simp)]
  simp only [parameterTokens]
  split
  · rfl
  · rename_i filled
    rw [List.splitOn_intercalate _ comma_not_mem_pieceTokens (pieceTokens_ne_nil filled),
      List.filterMap_eq_nil_iff]
    intro piece listed
    rcases List.mem_append.mp listed with isParam | isEllipsis
    · obtain ⟨param, _, rfl⟩ := List.mem_map.mp isParam
      exact param.read_tokens_name
    · split at isEllipsis
      · rw [List.mem_singleton.mp isEllipsis]
        rfl
      · simp at isEllipsis

theorem Dialect.listedNames_tokens (dialect : Dialect) (signature : Signature) :
    Source.listedNames (dialect.parameterTokens signature ++ [Token.sign ')', .sign ';']) = [] := by
  simp only [parameterTokens]
  split
  · rfl
  · exact signature.listedNames_tokens

namespace Declaration

theorem lineParameters_tokens (dialect : Dialect) (declared : Declaration) :
    Source.lineParameters (declared.tokens dialect) = [] := by
  simp only [Source.lineParameters, read_tokens]
  cases declared with
  | typedef target name => rfl
  | pointer name signature => exact dialect.listedNames_tokens signature
  | external name signature => exact signature.listedNames_tokens

end Declaration

end PortableC
