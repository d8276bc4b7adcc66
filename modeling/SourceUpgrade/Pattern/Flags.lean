import SourceUpgrade.Pattern.Expr
import SourceUpgrade.Text.Blank

namespace SourceUpgrade.Pattern

/-!
# Reading modes

The flags under which a pattern text is read, and the steps over layout that the extended mode
allows between its parts.
-/

/-- The modes in force at one place of a pattern text. -/
structure Flags where
  ignoreCase : Bool
  multiLine : Bool
  dotTakesNewline : Bool
  swapGreed : Bool
  unicode : Bool
  anyBreak : Bool
  extended : Bool
deriving Repr, DecidableEq

/-- The modes at the start of a text; only whether lines have ends of their own varies. -/
def Flags.start (multiLine : Bool) : Flags where
  ignoreCase := false
  multiLine := multiLine
  dotTakesNewline := false
  swapGreed := false
  unicode := true
  anyBreak := false
  extended := false

/-- Switch the mode with this letter on or off. -/
def Flags.set? (flags : Flags) (letter : Char) (on : Bool) : Option Flags :=
  match letter with
  | 'i' => some { flags with ignoreCase := on }
  | 'm' => some { flags with multiLine := on }
  | 's' => some { flags with dotTakesNewline := on }
  | 'U' => some { flags with swapGreed := on }
  | 'u' => some { flags with unicode := on }
  | 'R' => some { flags with anyBreak := on }
  | 'x' => some { flags with extended := on }
  | _ => none

/-- The words that the modes recognise. -/
def Flags.words (flags : Flags) : WordClass :=
  if flags.unicode then .unicode else .ascii

/-- Drop a comment up to and including the end of its line. -/
def dropComment (text : List Char) : List Char :=
  (text.dropWhile (· != '\n')).drop 1

/-- What is left after a comment is no longer than the text before it. -/
theorem length_dropComment_le (text : List Char) :
    (dropComment text).length ≤ text.length := by
  have dropped :=
    (List.dropWhile_suffix (l := text) (fun c => c != '\n')).length_le
  simp only [dropComment, List.length_drop]
  omega

/-- In extended mode, drop the blanks and comments at the front. -/
def skipLayout (extended : Bool) (text : List Char) : List Char :=
  if extended then
    match text with
    | [] => []
    | c :: rest =>
        if Text.isBlank c then skipLayout true rest
        else if c == '#' then skipLayout true (dropComment rest)
        else c :: rest
  else
    text
termination_by text.length
decreasing_by
  · simp
  · have dropped := length_dropComment_le rest
    simp only [List.length_cons]
    omega

/--
The character that follows the first one, layout left out.

One comment mark is stepped over as if it were a blank, so the text of a comment is looked at.
-/
def peekLayout (extended : Bool) (text : List Char) : Option Char :=
  let next := text.drop 1
  if extended then
    let inner := next.dropWhile Text.isBlank
    let seen :=
      match inner with
      | '#' :: comment => comment.dropWhile Text.isBlank
      | other => other
    if seen.isEmpty then next.head? else seen.head?
  else
    next.head?

end SourceUpgrade.Pattern
