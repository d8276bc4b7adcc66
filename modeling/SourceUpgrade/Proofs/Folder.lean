import SourceUpgrade.Folder

namespace SourceUpgrade.Folder

/-!
# Putting texts into folders

A text that is put into a file changes that file alone, and no file goes away by it.
-/

/-- A file that is put has its text. -/
theorem lookup_putIn_self
    (place : Location)
    (text : String)
    (files : List (Location × String)) :
    (putIn place text files).lookup place = some text := by
  induction files with
  | nil =>
      simp [putIn]
  | cons file rest inductionHypothesis =>
      obtain ⟨other, held⟩ := file
      by_cases here : other = place
      · simp [putIn, here]
      · have differs : (place == other) = false := beq_false_of_ne (Ne.symm here)
        simp [putIn, here, List.lookup_cons, differs, inductionHypothesis]

/-- A file stays as it was when another one is put. -/
theorem lookup_putIn_of_ne
    {place other : Location}
    (different : other ≠ place)
    (text : String)
    (files : List (Location × String)) :
    (putIn place text files).lookup other = files.lookup other := by
  induction files with
  | nil =>
      simp [putIn, List.lookup_cons, beq_false_of_ne different]
  | cons file rest inductionHypothesis =>
      obtain ⟨first, held⟩ := file
      by_cases here : first = place
      · subst here
        simp [putIn, List.lookup_cons, beq_false_of_ne different]
      · simp [putIn, here, List.lookup_cons, inductionHypothesis]

/-- Putting a text changes the file at that place alone. -/
theorem textAt?_put
    (folder : Folder)
    (place : Location)
    (text : String)
    (other : Location) :
    (folder.put place text).textAt? other =
      if other = place then some text else folder.textAt? other := by
  by_cases same : other = place
  · rw [if_pos same, same]
    exact lookup_putIn_self place text folder.files
  · rw [if_neg same]
    exact lookup_putIn_of_ne same text folder.files

/-- Every place at which there is a file stays one. -/
theorem mem_places_putIn
    {other : Location}
    {files : List (Location × String)}
    (member : other ∈ files.map Prod.fst)
    (place : Location)
    (text : String) :
    other ∈ (putIn place text files).map Prod.fst := by
  induction files with
  | nil =>
      simp at member
  | cons file rest inductionHypothesis =>
      obtain ⟨first, held⟩ := file
      by_cases here : first = place
      · simpa [putIn, here] using member
      · rcases List.mem_cons.mp member with rfl | later
        · simp [putIn, here]
        · simp [putIn, here, inductionHypothesis later]

end SourceUpgrade.Folder
