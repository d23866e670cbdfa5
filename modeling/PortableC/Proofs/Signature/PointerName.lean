import PortableC.ClaimedName
import PortableC.Proofs.CType.Spelling
import PortableC.Proofs.Text.Joined

namespace PortableC

/-! The name of a pointer type is an identifier that says which signature it stands for.

A name is a list of words with underscores between them, and no word has an
underscore of its own, so the words can be read off the name.  They are the
fragments of the types, with `va` at the end of a variadic one, and `va` is no
fragment.
-/

namespace Signature

def variadicWords (signature : Signature) : List (List Char) :=
  if signature.variadic then [['v', 'a']] else []

def nameWords (signature : Signature) : List (List Char) :=
  signature.ret.nameFragment.toList ::
    (signature.params.map (·.nameFragment.toList) ++ signature.variadicWords)

theorem toList_pointerName (signature : Signature) :
    signature.pointerName.toList = ['_'].intercalate (['f', 'n'] :: signature.nameWords) := by
  have ending : (if signature.variadic then "_va" else "").toList =
      signature.variadicWords.flatMap (['_'] ++ ·) := by
    simp only [variadicWords]
    split <;> rfl
  rw [Text.intercalate_cons]
  simp only [pointerName, nameWords, String.toList_append, String.toList_join, ending,
    List.flatMap_cons, List.flatMap_append, List.flatMap_map, List.append_assoc]
  rfl

theorem underscore_not_mem_nameWords {signature : Signature} {word : List Char}
    (member : word ∈ ['f', 'n'] :: signature.nameWords) : '_' ∉ word := by
  have inFragment (type : CType) : '_' ∉ type.nameFragment.toList := by
    intro member
    exact absurd (CType.nameFragment_alphanum member) (by decide)
  simp only [nameWords, List.mem_cons, List.mem_append, List.mem_map] at member
  rcases member with rfl | rfl | ⟨param, _, rfl⟩ | inTail
  · decide
  · exact inFragment signature.ret
  · exact inFragment param
  · simp only [variadicWords] at inTail
    split at inTail
    · rw [List.mem_singleton.mp inTail]
      decide
    · simp at inTail

theorem splitOn_pointerName (signature : Signature) :
    signature.pointerName.toList.splitOn '_' = ['f', 'n'] :: signature.nameWords := by
  rw [toList_pointerName]
  exact List.splitOn_intercalate '_' (fun _ => underscore_not_mem_nameWords) (by simp)

theorem va_not_mem_fragments (params : List CType) :
    ['v', 'a'] ∉ params.map (·.nameFragment.toList) := by
  intro member
  obtain ⟨param, _, same⟩ := List.mem_map.mp member
  exact param.nameFragment_ne_va same

theorem fragments_injective {first second : List CType}
    (same : first.map (·.nameFragment.toList) = second.map (·.nameFragment.toList)) :
    first = second :=
  (List.map_inj_right fun _ _ fragments =>
    CType.nameFragment_injective (String.toList_inj.mp fragments)).mp same

theorem nameWords_injective {first second : Signature}
    (same : first.nameWords = second.nameWords) : first = second := by
  obtain ⟨firstRet, firstParams, firstVariadic⟩ := first
  obtain ⟨secondRet, secondParams, secondVariadic⟩ := second
  simp only [nameWords, List.cons.injEq] at same
  obtain ⟨sameRet, sameTail⟩ := same
  have ret := CType.nameFragment_injective (String.toList_inj.mp sameRet)
  cases firstVariadic <;> cases secondVariadic <;>
    simp only [variadicWords, Bool.false_eq_true, ↓reduceIte, List.append_nil] at sameTail
  · rw [ret, fragments_injective sameTail]
  · exact absurd (by simp [sameTail]) (va_not_mem_fragments firstParams)
  · exact absurd (by simp [← sameTail]) (va_not_mem_fragments secondParams)
  · rw [ret, fragments_injective (List.append_cancel_right sameTail)]

theorem pointerName_injective {first second : Signature}
    (same : first.pointerName = second.pointerName) : first = second := by
  have words := congrArg (fun name : String => name.toList.splitOn '_') same
  simp only [splitOn_pointerName, List.cons.injEq, true_and] at words
  exact nameWords_injective words

theorem startsWith_pointerName (signature : Signature) :
    startsWith "fn_" signature.pointerName = true := by
  simp only [startsWith, pointerName, String.toList_append, List.append_assoc,
    List.isPrefixOf_iff_prefix]
  exact List.prefix_append _ _

theorem pointerName_ne_handleName (signature : Signature) :
    signature.pointerName ≠ handleName := by
  intro same
  have starts := signature.startsWith_pointerName
  rw [same] at starts
  exact absurd starts (by decide)

theorem pointerName_part (signature : Signature) {char : Char}
    (member : char ∈ signature.pointerName.toList) : Text.isIdentifierPart char = true := by
  have ofFragment {type : CType} (member : char ∈ type.nameFragment.toList) :
      Text.isIdentifierPart char = true := by
    simp [Text.isIdentifierPart, CType.nameFragment_alphanum member]
  simp only [pointerName, String.toList_append, String.toList_join, List.flatMap_map,
    List.mem_append, List.mem_flatMap] at member
  rcases member with ((inBeginning | inRet) | ⟨param, _, inSeparator | inParam⟩) | inEnding
  · exact List.all_eq_true.mp (by decide) char inBeginning
  · exact ofFragment inRet
  · exact List.all_eq_true.mp (by decide) char inSeparator
  · exact ofFragment inParam
  · split at inEnding
    · exact List.all_eq_true.mp (by decide) char inEnding
    · simp at inEnding

theorem isIdentifier_pointerName (signature : Signature) :
    Text.isIdentifier signature.pointerName = true := by
  have starts := signature.startsWith_pointerName
  have notKeyword : signature.pointerName ∉ Text.keywords := by
    intro member
    have noKeyword : ∀ word ∈ Text.keywords, startsWith "fn_" word = false := by decide
    simp [noKeyword _ member] at starts
  have shape : Text.isWord signature.pointerName.toList = true := by
    obtain ⟨rest, text⟩ := List.isPrefixOf_iff_prefix.mp starts
    have parts : ∀ char ∈ rest, Text.isIdentifierPart char = true := fun char member =>
      signature.pointerName_part (text ▸ List.mem_append_right _ member)
    rw [← text]
    change (Text.isIdentifierStart 'f' && (['n', '_'] ++ rest).all Text.isIdentifierPart) = true
    rw [List.all_append, List.all_eq_true.mpr parts]
    decide
  simp [Text.isIdentifier, shape, notKeyword]

end Signature

end PortableC
