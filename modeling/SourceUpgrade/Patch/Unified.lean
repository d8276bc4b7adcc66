import SourceUpgrade.Patch.Hunk

namespace SourceUpgrade.Patch

/-!
# The unified format

A patch names the file on both sides and then shows each hunk: a line with the ranges that it covers
and the lines themselves, each after a mark that says whether it is kept, deleted or inserted. Texts
that are the same have an empty patch.
-/

/-- A range of lines, counted from one; an empty range names the line before it. -/
def writeRange (start stop : Nat) : List Char :=
  let count := stop - start
  if count = 1 then Nat.toDigits 10 (start + 1)
  else Nat.toDigits 10 (if count = 0 then start else start + 1) ++ ',' :: Nat.toDigits 10 count

/-- What follows a line that has no end mark. -/
def missingEndNote : List Char :=
  "\n\\ No newline at end of file\n".toList

/-- A line after its mark. -/
def writeLine (mark : Char) (line : Line) : List Char :=
  mark :: line ++ if hasEndMark line then [] else missingEndNote

/-- Consecutive lines, each after the same mark. -/
def writeLines (mark : Char) (lines : Array Line) (start count : Nat) : List Char :=
  (lines.extract start (start + count)).toList.flatMap (writeLine mark)

/-- The lines of an edit. -/
def writeEdit (sides : Sides) (edit : Edit) : List Char :=
  match edit.kind with
  | .keep => writeLines ' ' sides.old edit.oldStart edit.oldCount
  | .delete => writeLines '-' sides.old edit.oldStart edit.oldCount
  | .insert => writeLines '+' sides.new edit.newStart edit.newCount
  | .replace =>
      writeLines '-' sides.old edit.oldStart edit.oldCount ++
        writeLines '+' sides.new edit.newStart edit.newCount

/-- The line that states the ranges of a hunk, from its first edit to its last. -/
def writeHeader (first last : Edit) : List Char :=
  "@@ -".toList ++ writeRange first.oldStart last.oldStop ++ " +".toList ++
    writeRange first.newStart last.newStop ++ " @@\n".toList

/-- A hunk with its ranges; a hunk without lines is left out. -/
def writeHunk (sides : Sides) (hunk : Hunk) : List Char :=
  let body := hunk.flatMap (writeEdit sides)
  match hunk, body with
  | [], _ => []
  | _, [] => []
  | first :: rest, body => writeHeader first (rest.getLastD first) ++ body

/-- The lines that name the file on both sides. -/
def writeNames (path : List Char) : List Char :=
  "--- a/".toList ++ path ++ "\n+++ b/".toList ++ path ++ ['\n']

/-- The patch for given hunks. -/
def writePatch (path : List Char) (sides : Sides) (hunks : List Hunk) : List Char :=
  if hunks.isEmpty then [] else writeNames path ++ hunks.flatMap (writeHunk sides)

/-- The patch that turns one text of a file into another, with `radius` kept lines around changes. -/
def unified (path before after : String) (radius : Nat) : String :=
  let sides := Sides.ofTexts before.toList after.toList
  String.ofList (writePatch path.toList sides (sides.hunks radius))

end SourceUpgrade.Patch
