import Mathlib.Data.List.Induction
import Mathlib.Data.Nat.Digits.Defs
import PortableC.Decimal.Numeral

namespace PortableC.Decimal

/-! Which texts are decimal numerals, and of which numbers.

The digits of a numeral count by their place, the last one least.  So the numerals of a number
are its decimal digits with any number of zeros in front.
-/

def digitValue (digit : Char) : Nat :=
  digit.toNat - '0'.toNat

/-- One or more digits, whose value goes by their places. -/
structure Numeral (digits : List Char) (value : Nat) : Prop where
  nonempty : digits ≠ []
  decimal : ∀ digit ∈ digits, digit.isDigit = true
  places : Nat.ofDigits 10 (digits.reverse.map digitValue) = value

variable {digits text : List Char} {value bound : Nat}

theorem ofDigitChars_eq_ofDigits (digits : List Char) :
    Nat.ofDigitChars 10 digits 0 = Nat.ofDigits 10 (digits.reverse.map digitValue) := by
  rw [Nat.ofDigitChars_eq_foldl, Nat.ofDigits_eq_foldr, List.foldr_map, List.foldr_reverse]
  congr 1
  funext value digit
  exact Nat.add_comm _ _

theorem numeral_toDigits (value : Nat) : Numeral (Nat.toDigits 10 value) value where
  nonempty := Nat.toDigits_ne_nil
  decimal _ member := Nat.isDigit_of_mem_toDigits (by omega) (by omega) member
  places := by rw [← ofDigitChars_eq_ofDigits, Nat.ofDigitChars_ten_toDigits]

theorem Numeral.zeros_append (numeral : Numeral digits value) (count : Nat) :
    Numeral (List.replicate count '0' ++ digits) value where
  nonempty := List.append_ne_nil_of_right_ne_nil _ numeral.nonempty
  decimal := by
    intro digit member
    rcases List.mem_append.mp member with isZero | inDigits
    · rw [List.eq_of_mem_replicate isZero]
      rfl
    · exact numeral.decimal digit inDigits
  places := by
    rw [← ofDigitChars_eq_ofDigits, Nat.ofDigitChars_append, Nat.ofDigitChars_replicate_zero,
      Nat.mul_zero, ofDigitChars_eq_ofDigits, numeral.places]

theorem digitChar_digitValue {digit : Char} (isDigit : digit.isDigit = true) :
    digitValue digit < 10 ∧ Nat.digitChar (digitValue digit) = digit := by
  have range : 48 ≤ digit.toNat ∧ digit.toNat ≤ 57 := by
    simpa [Char.isDigit, UInt32.le_iff_toNat_le] using isDigit
  have small : digitValue digit < 10 := by
    simp only [digitValue, Char.reduceToNat]
    omega
  refine ⟨small, Char.toNat_inj.mp ?_⟩
  rw [Nat.toNat_digitChar_of_lt_ten small]
  simp only [digitValue, Char.reduceToNat]
  omega

theorem ofDigitChars_concat (digits : List Char) (digit : Char) :
    Nat.ofDigitChars 10 (digits ++ [digit]) 0 =
      10 * Nat.ofDigitChars 10 digits 0 + digitValue digit := by
  rw [Nat.ofDigitChars_append, Nat.ofDigitChars_cons, Nat.ofDigitChars_nil]
  rfl

/-- A number has no other numerals than its decimal digits behind zeros. -/
theorem exists_zeros (nonempty : digits ≠ [])
    (decimal : ∀ digit ∈ digits, digit.isDigit = true) :
    ∃ count, digits =
      List.replicate count '0' ++ Nat.toDigits 10 (Nat.ofDigitChars 10 digits 0) := by
  induction digits using List.reverseRecOn with
  | nil => exact absurd rfl nonempty
  | append_singleton front last induction =>
      obtain ⟨decimalFront, decimalLast⟩ := List.forall_mem_append.mp decimal
      obtain ⟨small, char⟩ := digitChar_digitValue (decimalLast last List.mem_cons_self)
      have lastDigits : Nat.toDigits 10 (digitValue last) = [last] := by
        rw [Nat.toDigits_of_lt_base small, char]
      rw [ofDigitChars_concat]
      by_cases isEmpty : front = []
      · refine ⟨0, ?_⟩
        rw [isEmpty, Nat.ofDigitChars_nil, Nat.mul_zero, Nat.zero_add, lastDigits]
        rfl
      · obtain ⟨count, same⟩ := induction isEmpty decimalFront
        by_cases isZero : Nat.ofDigitChars 10 front 0 = 0
        -- The zero that stands for the front is one more in front of the last digit.
        · rw [isZero, Nat.toDigits_zero] at same
          refine ⟨count + 1, ?_⟩
          rw [isZero, Nat.mul_zero, Nat.zero_add, lastDigits, same, List.replicate_succ']
        · refine ⟨count, ?_⟩
          rw [← Nat.toDigits_append_toDigits (by omega) (Nat.pos_of_ne_zero isZero) small,
            lastDigits, ← List.append_assoc, ← same]

theorem numeral_iff :
    Numeral digits value ↔ ∃ count, digits = List.replicate count '0' ++ Nat.toDigits 10 value := by
  constructor
  · intro numeral
    have found := exists_zeros numeral.nonempty numeral.decimal
    rwa [ofDigitChars_eq_ofDigits, numeral.places] at found
  · intro found
    obtain ⟨count, same⟩ := found
    rw [same]
    exact (numeral_toDigits value).zeros_append count

/-! Reading. -/

theorem dropPlus_of_numeral (numeral : Numeral digits value) : dropPlus digits = digits := by
  unfold dropPlus
  split
  · next rest =>
      have plus : '+'.isDigit = true := numeral.decimal '+' List.mem_cons_self
      exact absurd plus (by decide)
  · rfl

theorem readBelow?_eq_some_iff : readBelow? bound text = some value ↔
    ∃ sign digits, (sign = "" ∨ sign = "+") ∧ text = sign.toList ++ digits ∧
      Numeral digits value ∧ value < bound := by
  have dropped : ∃ sign, (sign = "" ∨ sign = "+") ∧ text = sign.toList ++ dropPlus text := by
    unfold dropPlus
    split
    · exact ⟨"+", .inr rfl, rfl⟩
    · exact ⟨"", .inl rfl, rfl⟩
  constructor
  · intro read
    obtain ⟨sign, isSign, cut⟩ := dropped
    simp only [readBelow?, Bool.or_eq_true, Bool.not_eq_true', List.isEmpty_iff] at read
    split at read
    · cases read
    next isNumeral =>
      rw [not_or, Bool.not_eq_false, List.all_eq_true] at isNumeral
      split at read
      next below =>
        cases read
        refine ⟨sign, dropPlus text, isSign, cut, ⟨isNumeral.1, isNumeral.2, ?_⟩, below⟩
        exact (ofDigitChars_eq_ofDigits _).symm
      next => cases read
  · intro written
    obtain ⟨sign, digits, isSign, whole, numeral, below⟩ := written
    have rest : dropPlus text = digits := by
      rw [whole]
      rcases isSign with none | plus
      · rw [none]
        exact dropPlus_of_numeral numeral
      · rw [plus]
        rfl
    have decimal : digits.all Char.isDigit = true := List.all_eq_true.mpr numeral.decimal
    have counted : Nat.ofDigitChars 10 digits 0 = value :=
      (ofDigitChars_eq_ofDigits digits).trans numeral.places
    simp [readBelow?, rest, numeral.nonempty, decimal, counted, below]

end PortableC.Decimal
