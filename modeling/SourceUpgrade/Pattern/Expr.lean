import SourceUpgrade.Unicode.CharSet

namespace SourceUpgrade.Pattern

/-!
# Patterns

The meaning of a pattern text: which characters it takes, in which order it tries its alternatives,
which positions it demands and which parts of a match it remembers.
-/

/-- Which characters count as parts of words. -/
inductive WordClass where
  | unicode
  | ascii
deriving Repr, DecidableEq

/-- A condition on a position of a text. -/
inductive Look where
  | textStart
  | textEnd
  | lineStart
  | lineEnd
  | anyBreakStart
  | anyBreakEnd
  | boundary (words : WordClass)
  | noBoundary (words : WordClass)
  | wordStart (words : WordClass)
  | wordEnd (words : WordClass)
  | wordStartHalf (words : WordClass)
  | wordEndHalf (words : WordClass)
deriving Repr, DecidableEq

/--
A pattern. Alternatives and counts are tried in the order in which a match is preferred.

A group with an index remembers what it matched; one without only holds its body together.
-/
inductive Expr where
  | empty
  | set (chars : CharSet)
  | look (condition : Look)
  | group (index : Option Nat) (body : Expr)
  | seq (first second : Expr)
  | alt (preferred other : Expr)
  | iterate (body : Expr) (atLeast : Nat) (atMost : Option Nat) (greedy : Bool)
deriving Repr, DecidableEq

namespace Expr

/-- The least number of characters that a match takes. -/
def minLength : Expr → Nat
  | .empty => 0
  | .set _ => 1
  | .look _ => 0
  | .group _ body => body.minLength
  | .seq first second => first.minLength + second.minLength
  | .alt preferred other => min preferred.minLength other.minLength
  | .iterate body atLeast _ _ => atLeast * body.minLength

/-- Whether no match takes a character. -/
def takesNothing : Expr → Bool
  | .empty => true
  | .set _ => false
  | .look _ => true
  | .group _ body => body.takesNothing
  | .seq first second => first.takesNothing && second.takesNothing
  | .alt preferred other => preferred.takesNothing && other.takesNothing
  | .iterate body _ atMost _ => body.takesNothing || atMost == some 0

/-- A pattern repeated between two counts. What takes nothing is worth repeating at most once. -/
def repeated
    (body : Expr)
    (atLeast : Nat)
    (atMost : Option Nat)
    (greedy : Bool) :
    Expr :=
  let least := if body.takesNothing then min atLeast 1 else atLeast
  let most :=
    if body.takesNothing then some ((atMost.map fun count => min count 1).getD 1) else atMost
  if most == some 0 then .empty
  else if least == 1 && most == some 1 then body
  else .iterate body least most greedy

/-- One pattern after another, for a whole list. -/
def seqAll : List Expr → Expr
  | [] => .empty
  | [only] => only
  | first :: rest => .seq first (seqAll rest)

/-- The first pattern of a list that matches. -/
def altAll : List Expr → Expr
  | [] => .empty
  | [only] => only
  | first :: rest => .alt first (altAll rest)

end Expr

/-- What keeps a text from being a pattern. -/
inductive Fault where
  | unclosedGroup
  | unopenedGroup
  | unclosedClass
  | nothingToRepeat
  | badCount
  | badEscape
  | badClass
  | unknownClass
  | badName
  | badFlags
  | lookAround
  | notText
  | tooDeep
  | tooLarge
deriving Repr, DecidableEq

end SourceUpgrade.Pattern
