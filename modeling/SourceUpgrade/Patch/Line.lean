namespace SourceUpgrade.Patch

/-!
# Lines

A text is compared line by line. A line keeps the mark that ends it: a carriage return, a line feed
or both together; only the last line of a text may lack one.
-/

/-- A line with its end mark. -/
abbrev Line : Type := List Char

/-- Cut a text into its lines. -/
def splitLines : List Char → List Line
  | [] => []
  | '\r' :: '\n' :: rest => ['\r', '\n'] :: splitLines rest
  | c :: rest =>
      if c = '\r' ∨ c = '\n' then
        [c] :: splitLines rest
      else
        match splitLines rest with
        | [] => [[c]]
        | line :: lines => (c :: line) :: lines

/-- Whether a line ends with a mark. -/
def hasEndMark (line : Line) : Bool :=
  match line.getLast? with
  | some '\n' => true
  | some '\r' => true
  | _ => false

end SourceUpgrade.Patch
