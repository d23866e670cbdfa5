namespace PortableC.Text

/-! A run of items of one class, and what follows it. -/

variable {α : Type} {inClass : α → Bool} {run : List α}

theorem takeWhile_run (inside : ∀ item ∈ run, inClass item = true) (rest : List α)
    (stop : ∀ item ∈ rest.head?, inClass item = false) :
    (run ++ rest).takeWhile inClass = run := by
  rw [List.takeWhile_append_of_pos inside]
  cases rest with
  | nil => simp
  | cons next rest => simp [stop next rfl]

theorem dropWhile_run (inside : ∀ item ∈ run, inClass item = true) (rest : List α)
    (stop : ∀ item ∈ rest.head?, inClass item = false) :
    (run ++ rest).dropWhile inClass = rest := by
  rw [List.dropWhile_append_of_pos inside]
  cases rest with
  | nil => rfl
  | cons next rest => simp [stop next rfl]

end PortableC.Text
