namespace SourceUpgrade

/-!
# Computations that may fail

Two computations in a row, told from what each of them does.
-/

variable {ε α β : Type} {first : Except ε α} {second : α → Except ε β}

theorem bind_ok_iff
    {result : β} :
    (first >>= second) = .ok result ↔
      ∃ value, first = .ok value ∧ second value = .ok result := by
  cases first with
  | error error =>
      simp [bind, Except.bind]
  | ok value =>
      simp [bind, Except.bind]

theorem bind_of_ok
    {value : α}
    (succeeds : first = .ok value) :
    (first >>= second) = second value := by
  rw [succeeds]
  rfl

end SourceUpgrade
