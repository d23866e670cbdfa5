namespace PortableC.Text

/-! The lines that a text is written in. -/

def lines (text : String) : List String :=
  (text.toList.splitOn '\n').map String.ofList

/-- A text that stays on one line. -/
def Unbroken (text : String) : Prop :=
  '\n' ∉ text.toList

instance (text : String) : Decidable (Unbroken text) :=
  inferInstanceAs (Decidable (¬ '\n' ∈ text.toList))

/-- Nothing is left behind the last newline. -/
theorem lines_join {texts : List String} (unbroken : ∀ text ∈ texts, Unbroken text) :
    lines (String.join (texts.map (· ++ "\n"))) = texts ++ [""] := by
  induction texts with
  | nil => rfl
  | cons text texts induction =>
      have others := induction fun text member => unbroken text (List.mem_cons_of_mem _ member)
      have first : ∀ char ∈ text.toList, (char == '\n') = false := fun char member =>
        beq_eq_false_iff_ne.mpr fun same => unbroken text List.mem_cons_self (same ▸ member)
      have cut (behind : List Char) : (text.toList ++ '\n' :: behind).splitOn '\n' =
          text.toList :: behind.splitOn '\n' :=
        List.splitOnP_append_cons_of_forall_mem first _ (beq_self_eq_true _) _
      have chars : (String.join ((text :: texts).map (· ++ "\n"))).toList =
          text.toList ++ '\n' :: (String.join (texts.map (· ++ "\n"))).toList := by
        simp
      rw [lines] at others ⊢
      rw [chars, cut, List.map_cons, others, String.ofList_toList, List.cons_append]

end PortableC.Text
