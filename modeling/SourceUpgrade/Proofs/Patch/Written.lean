import SourceUpgrade.Proofs.Patch.Lines
import SourceUpgrade.Proofs.Patch.Reader
import SourceUpgrade.Proofs.Span

namespace SourceUpgrade.Patch

/-!
# Patches that are read as they were written

A hunk is written as a line with its ranges and as the lines of its rows; a row whose line has no end
mark takes two lines, the second of which is the note that says so. Reading these lines gives the
hunk back, with the numbers from its first edit to its last.
-/

/-! ## Rows -/

/-- The character that a mark is written as. -/
def Mark.char (mark : Mark) : Char :=
  match mark with
  | .context => ' '
  | .removed => '-'
  | .added => '+'

/-- The note that the line before has no end mark. -/
def missingEndLine : Line :=
  "\\ No newline at end of file\n".toList

/-- The lines that a row is written as. -/
def rowLines (row : Row) : List Line :=
  if hasEndMark row.2 then [row.1.char :: row.2]
  else [row.1.char :: (row.2 ++ ['\n']), missingEndLine]

/-- Consecutive lines. -/
def linesAt (lines : Array Line) (start count : Nat) : List Line :=
  (lines.extract start (start + count)).toList

/-- The rows of consecutive lines with the same mark. -/
def rowsOf (mark : Mark) (lines : Array Line) (start count : Nat) : List Row :=
  (linesAt lines start count).map (mark, ·)

/-- The rows of an edit. -/
def editRows (sides : Sides) (edit : Edit) : List Row :=
  match edit.kind with
  | .keep => rowsOf .context sides.old edit.oldStart edit.oldCount
  | .delete => rowsOf .removed sides.old edit.oldStart edit.oldCount
  | .insert => rowsOf .added sides.new edit.newStart edit.newCount
  | .replace =>
      rowsOf .removed sides.old edit.oldStart edit.oldCount ++
        rowsOf .added sides.new edit.newStart edit.newCount

/-- The rows of a hunk. -/
def hunkRows (sides : Sides) (hunk : Hunk) : List Row :=
  hunk.flatMap (editRows sides)

/-- A hunk that states the ranges from its first edit to its last. -/
def stated (first last : Edit) (rows : List Row) : Stated :=
  ⟨first.oldStart, last.oldStop - first.oldStart, first.newStart, last.newStop - first.newStart,
    rows⟩

/-- What is read of a hunk: nothing if it has no rows. -/
def stateHunk? (sides : Sides) (hunk : Hunk) : Option Stated :=
  match hunk with
  | [] => none
  | first :: rest =>
      match hunkRows sides (first :: rest) with
      | [] => none
      | row :: rows => some (stated first (rest.getLastD first) (row :: rows))

/-- The lines that a hunk is written as. -/
def hunkLines (sides : Sides) (hunk : Hunk) : List Line :=
  match hunk with
  | [] => []
  | first :: rest =>
      match hunkRows sides (first :: rest) with
      | [] => []
      | row :: rows =>
          writeHeader first (rest.getLastD first) :: (row :: rows).flatMap rowLines

variable {sides : Sides} {row : Row} {rows : List Row} {lines : List Line} {hunks : List Stated}
  {rest : List Char}

theorem flatten_flatMap
    {α β : Type}
    (lists : α → List (List β))
    (items : List α) :
    (items.flatMap lists).flatten = items.flatMap fun item => (lists item).flatten := by
  simp only [List.flatten_eq_flatMap, List.flatMap_assoc]

theorem writeLine_eq_flatten
    (mark : Mark)
    (line : Line) :
    writeLine mark.char line = (rowLines (mark, line)).flatten := by
  unfold writeLine rowLines
  split
  · simp
  · have note : missingEndNote = '\n' :: missingEndLine := rfl
    rw [note]
    simp

theorem writeLines_eq_flatten
    (mark : Mark)
    (lines : Array Line)
    (start count : Nat) :
    writeLines mark.char lines start count =
      ((rowsOf mark lines start count).flatMap rowLines).flatten := by
  rw [flatten_flatMap, rowsOf, List.flatMap_map]
  simp only [← writeLine_eq_flatten]
  rfl

/-- An edit is written as the lines of its rows. -/
theorem writeEdit_eq_flatten
    (sides : Sides)
    (edit : Edit) :
    writeEdit sides edit = ((editRows sides edit).flatMap rowLines).flatten := by
  unfold writeEdit editRows
  cases edit.kind with
  | keep =>
      exact writeLines_eq_flatten .context sides.old edit.oldStart edit.oldCount
  | delete =>
      exact writeLines_eq_flatten .removed sides.old edit.oldStart edit.oldCount
  | insert =>
      exact writeLines_eq_flatten .added sides.new edit.newStart edit.newCount
  | replace =>
      simp only [List.flatMap_append, List.flatten_append, ← writeLines_eq_flatten]
      rfl

theorem flatMap_writeEdit_eq_flatten
    (sides : Sides)
    (hunk : Hunk) :
    hunk.flatMap (writeEdit sides) = ((hunkRows sides hunk).flatMap rowLines).flatten := by
  rw [hunkRows, List.flatMap_assoc, flatten_flatMap]
  simp only [← writeEdit_eq_flatten]

theorem flatMap_rowLines_flatten_cons
    (row : Row)
    (rows : List Row) :
    ∃ c text, ((row :: rows).flatMap rowLines).flatten = c :: text := by
  rw [List.flatMap_cons, List.flatten_append]
  unfold rowLines
  split
  · exact ⟨_, _, rfl⟩
  · exact ⟨_, _, rfl⟩

/-- A hunk is written as its lines one after the other. -/
theorem writeHunk_eq_flatten
    (sides : Sides)
    (hunk : Hunk) :
    writeHunk sides hunk = (hunkLines sides hunk).flatten := by
  cases hunk with
  | nil =>
      rfl
  | cons first rest =>
      simp only [writeHunk, hunkLines, flatMap_writeEdit_eq_flatten]
      cases hunkRows sides (first :: rest) with
      | nil =>
          rfl
      | cons row rows =>
          obtain ⟨c, text, written⟩ := flatMap_rowLines_flatten_cons row rows
          simp only [written, List.flatten_cons]

/-! ## Lines that are found again -/

theorem Mark.char_inner
    (mark : Mark) :
    mark.char ≠ '\r' ∧ mark.char ≠ '\n' := by
  cases mark <;> decide

/-- The lines of a row stand alone. -/
theorem standsAlone_of_mem_rowLines
    {line : Line}
    (isLine : IsEnded row.2 ∨ IsUnended row.2)
    (member : line ∈ rowLines row) :
    StandsAlone line := by
  have noLineFeed (text : List Char) : (row.1.char :: text).head? ≠ some '\n' :=
    fun same => row.1.char_inner.2 (Option.some.inj same)
  rcases isLine with ended | unended
  · rw [rowLines, if_pos ended.hasEndMark_eq] at member
    obtain rfl := List.mem_singleton.mp member
    exact ⟨ended.cons row.1.char_inner, noLineFeed row.2⟩
  · rw [rowLines, unended.hasEndMark_eq, if_neg (by decide)] at member
    rcases List.mem_cons.mp member with rfl | member
    · exact ⟨unended.isEnded_append.cons row.1.char_inner, noLineFeed _⟩
    · obtain rfl := List.mem_singleton.mp member
      have noteUnended : IsUnended "\\ No newline at end of file".toList := isUnended_of_all rfl
      exact ⟨noteUnended.isEnded_append, by decide⟩

theorem isUnended_toDigits
    (value : Nat) :
    IsUnended (Nat.toDigits 10 value) := by
  intro c member
  have digit : c.isDigit := Nat.isDigit_of_mem_toDigits (by decide) (by decide) member
  constructor
  · rintro rfl
    cases digit
  · rintro rfl
    cases digit

theorem IsUnended.append
    {first second : Line}
    (unendedFirst : IsUnended first)
    (unendedSecond : IsUnended second) :
    IsUnended (first ++ second) :=
  List.forall_mem_append.mpr ⟨unendedFirst, unendedSecond⟩

theorem isUnended_writeRange
    (start stop : Nat) :
    IsUnended (writeRange start stop) := by
  unfold writeRange
  simp only
  split
  · exact isUnended_toDigits _
  · exact (isUnended_toDigits _).append
      (List.forall_mem_cons.mpr ⟨by decide, isUnended_toDigits _⟩)

/-- The header of a hunk stands alone. -/
theorem standsAlone_writeHeader
    (first last : Edit) :
    StandsAlone (writeHeader first last) := by
  have unended :
      IsUnended
        ("@@ -".toList ++ writeRange first.oldStart last.oldStop ++ " +".toList ++
          writeRange first.newStart last.newStop ++ " @@".toList) := by
    refine IsUnended.append (.append (.append (.append ?_ (isUnended_writeRange _ _)) ?_)
      (isUnended_writeRange _ _)) ?_
    all_goals exact isUnended_of_all rfl
  have ended := unended.isEnded_append
  rw [List.append_assoc] at ended
  exact ⟨ended, nofun⟩

/-- The lines of a hunk stand alone. -/
theorem standsAlone_of_mem_hunkLines
    {hunk : Hunk}
    {line : Line}
    (areLines : ∀ row ∈ hunkRows sides hunk, IsEnded row.2 ∨ IsUnended row.2)
    (member : line ∈ hunkLines sides hunk) :
    StandsAlone line := by
  unfold hunkLines at member
  split at member
  · cases member
  · split at member
    · cases member
    · rename_i rowsEq
      rw [← rowsEq] at member
      rcases List.mem_cons.mp member with rfl | ofRow
      · exact standsAlone_writeHeader _ _
      · obtain ⟨row, isRow, inRow⟩ := List.mem_flatMap.mp ofRow
        exact standsAlone_of_mem_rowLines (areLines row isRow) inRow

/-! ## Reading -/

theorem readNat?_toDigits_append
    (value : Nat)
    (noDigit : ∀ c ∈ rest.head?, c.isDigit = false) :
    readNat? (Nat.toDigits 10 value ++ rest) = some (value, rest) := by
  have digits : ∀ c ∈ Nat.toDigits 10 value, c.isDigit :=
    fun _ member => Nat.isDigit_of_mem_toDigits (by decide) (by decide) member
  have nonempty : (Nat.toDigits 10 value).isEmpty = false :=
    List.isEmpty_eq_false_iff.mpr Nat.toDigits_ne_nil
  rw [readNat?, takeWhile_append_of_stop digits noDigit, dropWhile_append_of_stop digits noDigit,
    nonempty, Nat.ofDigitChars_ten_toDigits]
  rfl

/-- A range is read as it was written. -/
theorem readRange?_writeRange_append
    (start stop : Nat)
    (rest : List Char) :
    readRange? (writeRange start stop ++ ' ' :: rest) =
      some ((start, stop - start), ' ' :: rest) := by
  have blank : ∀ c ∈ (' ' :: rest).head?, c.isDigit = false := by
    rintro _ ⟨⟩
    decide
  have comma (text : List Char) : ∀ c ∈ (',' :: text).head?, c.isDigit = false := by
    rintro _ ⟨⟩
    decide
  unfold writeRange readRange?
  simp only
  split
  · rename_i one
    rw [readNat?_toDigits_append _ blank, one]
    rfl
  · rw [List.append_assoc, List.cons_append, readNat?_toDigits_append _ (comma _)]
    simp only [Option.bind_eq_bind, Option.bind_some, readNat?_toDigits_append _ blank]
    split
    · rfl
    · rfl

theorem dropWord?_append
    (word text : List Char) :
    dropWord? word (word ++ text) = some text := by
  have atFront : word.isPrefixOf (word ++ text) := List.isPrefixOf_iff_prefix.mpr ⟨text, rfl⟩
  rw [dropWord?, if_pos atFront, List.drop_left]

/-- A header is read as it was written. -/
theorem readHeader?_writeHeader
    (first last : Edit)
    (rows : List Row) :
    readHeader? (writeHeader first last) rows = some (stated first last rows) := by
  have text :
      writeHeader first last =
        "@@ -".toList ++ (writeRange first.oldStart last.oldStop ++ ' ' ::
          '+' :: (writeRange first.newStart last.newStop ++ ' ' :: "@@\n".toList)) := by
    -- the equation that `rw` would make of the definition is slow to check
    show "@@ -".toList ++ writeRange first.oldStart last.oldStop ++ " +".toList ++
      writeRange first.newStart last.newStop ++ " @@\n".toList = _
    rw [List.append_assoc, List.append_assoc, List.append_assoc]
    rfl
  have plus (rest : List Char) : dropWord? " +".toList (' ' :: '+' :: rest) = some rest :=
    dropWord?_append " +".toList rest
  rw [text, readHeader?, dropWord?_append, Option.bind_eq_bind, Option.bind_some,
    readRange?_writeRange_append, Option.bind_eq_bind, Option.bind_some]
  dsimp only
  rw [plus, Option.bind_some, readRange?_writeRange_append, Option.bind_some]
  exact if_pos rfl

theorem readLine?_row
    (mark : Mark)
    (text : List Char)
    (rows : List Row)
    (hunks : List Stated) :
    readLine? (mark.char :: text) ⟨false, rows, hunks⟩ =
      some ⟨false, (mark, text) :: rows, hunks⟩ := by
  cases mark <;> rfl

theorem readLine?_unended_row
    (mark : Mark)
    (text : List Char)
    (rows : List Row)
    (hunks : List Stated) :
    readLine? (mark.char :: (text ++ ['\n'])) ⟨true, rows, hunks⟩ =
      some ⟨false, (mark, text) :: rows, hunks⟩ := by
  cases mark <;> simp [readLine?, Mark.char, Mark.ofChar?]

theorem readLines?_cons
    {line : Line}
    {reading : Reading}
    (later : readLines? lines = some reading) :
    readLines? (line :: lines) = readLine? line reading := by
  rw [readLines?, List.foldr_cons, ← readLines?, later]
  rfl

theorem readLines?_rowLines_append
    (row : Row)
    (later : readLines? lines = some ⟨false, rows, hunks⟩) :
    readLines? (rowLines row ++ lines) = some ⟨false, row :: rows, hunks⟩ := by
  unfold rowLines
  split
  · rw [List.singleton_append, readLines?_cons later, readLine?_row]
  -- The lines are read from the last one on, so the note is read before its row.
  · have note : readLines? (missingEndLine :: lines) = some ⟨true, rows, hunks⟩ :=
      readLines?_cons later
    rw [List.cons_append, List.singleton_append, readLines?_cons note, readLine?_unended_row]

theorem readLines?_flatMap_rowLines_append
    (rows : List Row)
    (later : readLines? lines = some ⟨false, [], hunks⟩) :
    readLines? (rows.flatMap rowLines ++ lines) = some ⟨false, rows, hunks⟩ := by
  induction rows with
  | nil =>
      exact later
  | cons row rows inductionHypothesis =>
      rw [List.flatMap_cons, List.append_assoc]
      exact readLines?_rowLines_append row inductionHypothesis

/-- The lines of a hunk are read as the hunk, if it has rows. -/
theorem readLines?_hunkLines_append
    (sides : Sides)
    (hunk : Hunk)
    (later : readLines? lines = some ⟨false, [], hunks⟩) :
    readLines? (hunkLines sides hunk ++ lines) =
      some ⟨false, [], (stateHunk? sides hunk).toList ++ hunks⟩ := by
  cases hunk with
  | nil =>
      exact later
  | cons first rest =>
      simp only [hunkLines, stateHunk?]
      cases hunkRows sides (first :: rest) with
      | nil =>
          exact later
      | cons row rows =>
          have rowsRead := readLines?_flatMap_rowLines_append (row :: rows) later
          rw [List.cons_append, readLines?_cons rowsRead]
          have header (rows : List Row) (hunks : List Stated) :
              readLine? (writeHeader first (rest.getLastD first)) ⟨false, rows, hunks⟩ =
                (readHeader? (writeHeader first (rest.getLastD first)) rows).map
                  fun hunk => ⟨false, [], hunk :: hunks⟩ := rfl
          rw [header, readHeader?_writeHeader]
          rfl

theorem readLines?_flatMap_hunkLines
    (sides : Sides)
    (hunks : List Hunk) :
    readLines? (hunks.flatMap (hunkLines sides)) =
      some ⟨false, [], hunks.flatMap fun hunk => (stateHunk? sides hunk).toList⟩ := by
  induction hunks with
  | nil =>
      rfl
  | cons hunk hunks inductionHypothesis =>
      exact readLines?_hunkLines_append sides hunk inductionHypothesis

/-- Every line of a side ends with its only end mark or has none. -/
def Sides.AreLines (sides : Sides) : Prop :=
  ∀ line, line ∈ sides.old ∨ line ∈ sides.new → IsEnded line ∨ IsUnended line

theorem areLines_ofTexts
    (before after : List Char) :
    (Sides.ofTexts before after).AreLines := by
  rintro line (member | member)
  · exact isEnded_or_isUnended_of_mem (List.mem_toArray.mp member)
  · exact isEnded_or_isUnended_of_mem (List.mem_toArray.mp member)

theorem mem_of_mem_rowsOf
    {mark : Mark}
    {lines : Array Line}
    {start count : Nat}
    (member : row ∈ rowsOf mark lines start count) :
    row.2 ∈ lines := by
  obtain ⟨line, inExtract, rfl⟩ := List.mem_map.mp member
  obtain ⟨index, within, found⟩ := Array.mem_extract_iff_getElem.mp (Array.mem_toList_iff.mp inExtract)
  exact found ▸ Array.getElem_mem _

/-- The rows of a hunk are lines. -/
theorem Sides.AreLines.hunkRows
    (areLines : sides.AreLines)
    (hunk : Hunk) :
    ∀ row ∈ hunkRows sides hunk, IsEnded row.2 ∨ IsUnended row.2 := by
  intro row member
  obtain ⟨edit, _, ofEdit⟩ := List.mem_flatMap.mp member
  refine areLines row.2 ?_
  unfold editRows at ofEdit
  split at ofEdit
  · exact Or.inl (mem_of_mem_rowsOf ofEdit)
  · exact Or.inl (mem_of_mem_rowsOf ofEdit)
  · exact Or.inr (mem_of_mem_rowsOf ofEdit)
  · exact (List.mem_append.mp ofEdit).imp mem_of_mem_rowsOf mem_of_mem_rowsOf

/-- Hunks are read as they were written, but for those without rows. -/
theorem readHunks?_flatMap_writeHunk
    (areLines : sides.AreLines)
    (hunks : List Hunk) :
    readHunks? (hunks.flatMap (writeHunk sides)) =
      some (hunks.flatMap fun hunk => (stateHunk? sides hunk).toList) := by
  have text :
      hunks.flatMap (writeHunk sides) = (hunks.flatMap (hunkLines sides)).flatten := by
    rw [flatten_flatMap]
    simp only [← writeHunk_eq_flatten]
  have alone : ∀ line ∈ hunks.flatMap (hunkLines sides), StandsAlone line := by
    intro line member
    obtain ⟨hunk, _, inHunk⟩ := List.mem_flatMap.mp member
    exact standsAlone_of_mem_hunkLines (areLines.hunkRows hunk) inHunk
  rw [text, readHunks?, splitLines_flatten alone, readLines?_flatMap_hunkLines]

/-! ## Patches end their last line -/

theorem endsLine_writeLine
    (mark : Char)
    (line : Line) :
    EndsLine (writeLine mark line) := by
  unfold writeLine
  by_cases ended : hasEndMark line = true
  · rw [if_pos ended, List.append_nil]
    intro c isLast
    unfold hasEndMark at ended
    split at ended
    · rename_i found
      rw [List.getLast?_cons, found] at isLast
      exact .inr (Option.some.inj isLast).symm
    · rename_i found
      rw [List.getLast?_cons, found] at isLast
      exact .inl (Option.some.inj isLast).symm
    · cases ended
  · have note : missingEndNote = '\n' :: "\\ No newline at end of file".toList ++ ['\n'] := rfl
    rw [if_neg ended, note, ← List.append_assoc]
    exact endsLine_append_lineFeed _

theorem endsLine_writeLines
    (mark : Char)
    (lines : Array Line)
    (start count : Nat) :
    EndsLine (writeLines mark lines start count) :=
  endsLine_flatMap fun line _ => endsLine_writeLine mark line

theorem endsLine_writeEdit
    (sides : Sides)
    (edit : Edit) :
    EndsLine (writeEdit sides edit) := by
  unfold writeEdit
  cases edit.kind with
  | keep | delete | insert =>
      exact endsLine_writeLines _ _ _ _
  | replace =>
      exact (endsLine_writeLines _ _ _ _).append (endsLine_writeLines _ _ _ _)

theorem endsLine_writeHunk
    (sides : Sides)
    (hunk : Hunk) :
    EndsLine (writeHunk sides hunk) := by
  have body : EndsLine (hunk.flatMap (writeEdit sides)) :=
    endsLine_flatMap fun edit _ => endsLine_writeEdit sides edit
  cases hunk with
  | nil =>
      exact endsLine_nil
  | cons first rest =>
      simp only [writeHunk]
      cases written : (first :: rest).flatMap (writeEdit sides) with
      | nil =>
          exact endsLine_nil
      | cons c text =>
          exact (standsAlone_writeHeader _ _).endsLine.append (written ▸ body)

/-- A patch is empty or ends with an end mark. -/
theorem endsLine_unified
    (path before after : String)
    (radius : Nat) :
    EndsLine (unified path before after radius).toList := by
  rw [unified, String.toList_ofList, writePatch]
  split
  · exact endsLine_nil
  · exact (endsLine_append_lineFeed _).append
      (endsLine_flatMap fun hunk _ => endsLine_writeHunk _ hunk)

end SourceUpgrade.Patch
