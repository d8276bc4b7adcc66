import SourceUpgrade.Text.Blank

namespace SourceUpgrade.Passage

/-!
# Windows

A long text is cut into windows of limited size, each of which begins with the end of the one before
it. However large the overlap is, every window begins at least one character further on.
-/

/-- The size of windows and how much neighbours share. -/
structure WindowSize where
  limit : Nat
  overlap : Nat
deriving Repr, DecidableEq

/-- The size of windows unless another is chosen. -/
def WindowSize.standard : WindowSize where
  limit := 1200
  overlap := 150

/-- The windows of a text from a position on, for a limit that is not zero. -/
def windowsFrom
    (text : Array Char)
    (limit overlap start : Nat) :
    List (List Char) :=
  if start < text.size then
    let stop := min (start + limit) text.size
    let window := (text.extract start stop).toList
    if stop = text.size then
      [window]
    else
      window :: windowsFrom text limit overlap (max (stop - overlap) (start + 1))
  else
    []
termination_by text.size - start
decreasing_by omega

/-- The windows of a trimmed text; a text that fits into one is not cut. -/
def windows (size : WindowSize) (text : List Char) : List (List Char) :=
  let body := Text.trim text
  let limit := max size.limit 1
  if body.length ≤ limit then [body] else windowsFrom body.toArray limit size.overlap 0

/-- The windows of a string. -/
def windowStrings (size : WindowSize) (text : String) : List String :=
  (windows size text.toList).map String.ofList

end SourceUpgrade.Passage
