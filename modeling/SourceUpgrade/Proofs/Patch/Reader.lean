import SourceUpgrade.Patch.Unified

namespace SourceUpgrade.Patch

/-!
# Reading a patch and applying it

The lines of a patch after its two names are read back: a line that begins a hunk with the numbers it
states, and the rows of the hunk, each kept, deleted or inserted. A note that a line has no end mark
belongs to the row before it.

A hunk is applied where it states: the old lines up to there are kept, and then its rows have to be
the old lines that stand there, apart from the inserted ones.
-/

/-- What a row says of its line. -/
inductive Mark where
  | context
  | removed
  | added
deriving Repr, DecidableEq

/-- A line of one of the texts with its mark. -/
abbrev Row : Type := Mark × Line

/-- A hunk as it is read: the lines before it and the lines in it that it states, and its rows. -/
structure Stated where
  oldStart : Nat
  oldCount : Nat
  newStart : Nat
  newCount : Nat
  rows : List Row
deriving Repr, DecidableEq

/-! ## Reading -/

/-- The mark that a character stands for. -/
def Mark.ofChar? (c : Char) : Option Mark :=
  match c with
  | ' ' => some .context
  | '-' => some .removed
  | '+' => some .added
  | _ => none

/-- A number at the front of a text, and the text after it. -/
def readNat? (text : List Char) : Option (Nat × List Char) :=
  let digits := text.takeWhile Char.isDigit
  if digits.isEmpty then none
  else some (Nat.ofDigitChars 10 digits 0, text.dropWhile Char.isDigit)

/-- A range: how many lines stand before it and how many it has. One line is not counted. -/
def readRange? (text : List Char) : Option ((Nat × Nat) × List Char) := do
  let (first, rest) ← readNat? text
  match rest with
  | ',' :: rest => do
      let (count, rest) ← readNat? rest
      return ((if count = 0 then first else first - 1, count), rest)
  | _ => return ((first - 1, 1), rest)

/-- The text after a word at the front. -/
def dropWord? (word text : List Char) : Option (List Char) :=
  if word.isPrefixOf text then some (text.drop word.length) else none

/-- The hunk that a line begins, with given rows. -/
def readHeader? (line : Line) (rows : List Row) : Option Stated := do
  let rest ← dropWord? "@@ -".toList line
  let ((oldStart, oldCount), rest) ← readRange? rest
  let rest ← dropWord? " +".toList rest
  let ((newStart, newCount), rest) ← readRange? rest
  if rest = " @@\n".toList then return ⟨oldStart, oldCount, newStart, newCount, rows⟩ else none

/-- What has been read of a patch from its end on: rows without a header yet, and hunks. -/
structure Reading where
  unended : Bool
  rows : List Row
  hunks : List Stated
deriving Repr, DecidableEq

/-- Read one more line, standing before those that have been read. -/
def readLine? (line : Line) (reading : Reading) : Option Reading :=
  match line with
  | [] => none
  | '@' :: _ =>
      if reading.unended then none
      else (readHeader? line reading.rows).map fun hunk => ⟨false, [], hunk :: reading.hunks⟩
  | '\\' :: _ => if reading.unended then none else some { reading with unended := true }
  | c :: text =>
      (Mark.ofChar? c).map fun mark =>
        ⟨false, (mark, if reading.unended then text.dropLast else text) :: reading.rows,
          reading.hunks⟩

/-- Read the lines of a patch, the last one first. -/
def readLines? (lines : List Line) : Option Reading :=
  lines.foldr (fun line reading => reading.bind (readLine? line)) (some ⟨false, [], []⟩)

/-- The hunks of a patch, its names left out. -/
def readHunks? (text : List Char) : Option (List Stated) :=
  match readLines? (splitLines text) with
  | some ⟨false, [], hunks⟩ => some hunks
  | _ => none

/-! ## Applying -/

/-- The new lines that rows make of old ones, and the old lines after them. -/
def play? : List Row → List Line → Option (List Line × List Line)
  | [], old => some ([], old)
  | (.added, line) :: rows, old =>
      (play? rows old).map fun made => (line :: made.1, made.2)
  | (.context, line) :: rows, found :: old =>
      if found = line then (play? rows old).map fun made => (line :: made.1, made.2) else none
  | (.removed, line) :: rows, found :: old => if found = line then play? rows old else none
  | _ :: _, [] => none

/-- Where a hunk has been applied: the new lines made before it and the old lines after it. -/
structure Applied where
  hunk : Stated
  newBefore : Nat
  oldAfter : Nat
deriving Repr, DecidableEq

/--
Apply hunks to the old lines after a place, in ascending order and without overlap, as far as each
application is approved.
-/
def replay?
    (approves : Applied → Bool) :
    Nat → Nat → List Line → List Stated → Option (List Line)
  | _, _, old, [] => some old
  | oldBefore, newBefore, old, hunk :: hunks =>
      let skipped := hunk.oldStart - oldBefore
      if hunk.oldStart < oldBefore ∨ old.length < skipped then none
      else
        match play? hunk.rows (old.drop skipped) with
        | none => none
        | some (made, rest) =>
            if approves ⟨hunk, newBefore + skipped, rest.length⟩ then
              (replay? approves (oldBefore + (old.length - rest.length))
                (newBefore + skipped + made.length) rest hunks).map
                  fun later => old.take skipped ++ made ++ later
            else
              none

/-- Apply the patch of a file to its old text; an empty patch changes nothing. -/
def applyPatch? (approves : Applied → Bool) (path before patch : String) : Option String :=
  if patch = "" then some before
  else do
    let names := "--- a/" ++ path ++ "\n+++ b/" ++ path ++ "\n"
    let body ← dropWord? names.toList patch.toList
    let hunks ← readHunks? body
    let lines ← replay? approves 0 0 (splitLines before.toList) hunks
    return String.ofList lines.flatten

/-- How many old lines rows have. -/
def oldRows (rows : List Row) : Nat :=
  rows.countP fun row => row.1 != .added

/-- How many new lines rows have. -/
def newRows (rows : List Row) : Nat :=
  rows.countP fun row => row.1 != .removed

/-- All numbers that a hunk states are right. -/
def Applied.isExact (applied : Applied) : Bool :=
  applied.hunk.newStart == applied.newBefore &&
    (applied.hunk.oldCount == oldRows applied.hunk.rows &&
      applied.hunk.newCount == newRows applied.hunk.rows)

/-- The hunk begins with a change, at the very begin of the old text. -/
def Applied.opensWithChange (applied : Applied) : Bool :=
  applied.hunk.oldStart == 0 && applied.hunk.rows.head?.any fun row => row.1 != .context

/-- The hunk ends with a change, at the very end of the old text. -/
def Applied.closesWithChange (applied : Applied) : Bool :=
  applied.oldAfter == 0 && applied.hunk.rows.getLast?.any fun row => row.1 != .context

/-- The numbers that a hunk states are right, but for those that a change at either end spoils. -/
def Applied.isExactWithin (applied : Applied) : Bool :=
  (applied.opensWithChange || applied.hunk.newStart == applied.newBefore) &&
    (applied.closesWithChange || applied.hunk.oldCount == oldRows applied.hunk.rows) &&
      (applied.opensWithChange || applied.closesWithChange ||
        applied.hunk.newCount == newRows applied.hunk.rows)

end SourceUpgrade.Patch
