import SourceUpgrade.Pattern.Normal
import SourceUpgrade.Pattern.Weight

namespace SourceUpgrade.Pattern

/-!
# The limit of a pattern's size

A pattern is refused if one of two byte automata for its normal form passes `sizeLimit`: the one
that reads a text forwards and remembers groups, or the one that reads it backwards. A choice between
very many words needs neither.
-/

namespace Expr

/-- The least length of a match, unless nothing matches at all. -/
def leastLength? : Expr → Option Nat
  | .empty => some 0
  | .set chars => if chars.isEmpty then none else some 1
  | .look _ => some 0
  | .group _ body => body.leastLength?
  | .seq first second =>
      match first.leastLength?, second.leastLength? with
      | some least, some other => some (least + other)
      | _, _ => none
  | .alt preferred other =>
      match preferred.leastLength?, other.leastLength? with
      | some least, some other => some (min least other)
      | _, _ => none
  | .iterate body atLeast _ _ => body.leastLength?.map (atLeast * ·)

/-- Whether every match begins where a condition holds. -/
def beginsWith (condition : Look) : Expr → Bool
  | .empty => false
  | .set _ => false
  | .look demanded => demanded == condition
  | .group _ body => body.beginsWith condition
  | .seq first second =>
      first.beginsWith condition || (first.takesNothing && second.beginsWith condition)
  | .alt preferred other => preferred.beginsWith condition && other.beginsWith condition
  | .iterate body atLeast _ _ => 0 < atLeast && body.beginsWith condition

/-- Whether every match ends where a condition holds. -/
def endsWith (condition : Look) : Expr → Bool
  | .empty => false
  | .set _ => false
  | .look demanded => demanded == condition
  | .group _ body => body.endsWith condition
  | .seq first second =>
      second.endsWith condition || (second.takesNothing && first.endsWith condition)
  | .alt preferred other => preferred.endsWith condition && other.endsWith condition
  | .iterate body atLeast _ _ => 0 < atLeast && body.endsWith condition

/-- The word that a pattern stands for. -/
def word? : Expr → Option (List Char)
  | .set chars => chars.only?.map fun c => [c]
  | .seq first second =>
      match first.word?, second.word? with
      | some start, some rest => some (start ++ rest)
      | _, _ => none
  | _ => none

/-- The words between which a pattern chooses. -/
def words? : Expr → Option (List (List Char))
  | .alt preferred other =>
      match preferred.word?, other.words? with
      | some word, some rest => some (word :: rest)
      | _, _ => none
  | other => other.word?.map fun word => [word]

end Expr

namespace Weight

/-- Add a choice with two branches. -/
def growChoice : Growth :=
  grow 1 (2 * branchSize)

/-- Join an option to the choice that it belongs to, given how many options come before it. -/
def joinOption : Nat → Growth
  | 0 => some
  | 1 => grow 2 (2 * branchSize)
  | _ => grow 0 branchSize

/-- Add a part and join it to the choice that it belongs to. -/
def growOption (part : Growth) (before : Nat) : Growth :=
  inTurn [part, joinOption before]

/--
Add a repetition of a part.

A part that may match nothing and repeats without end is entered through a choice of its own.
-/
def growIterate
    (part : Growth)
    (canBeEmpty : Bool)
    (atLeast : Nat) :
    Option Nat → Growth
  | none =>
      match atLeast with
      | 0 =>
          if canBeEmpty then inTurn [part, growChoice, growChoice, grow 1 0]
          else inTurn [growChoice, part]
      | required => inTurn [times part required, growChoice]
  | some most =>
      if atLeast == 0 && most == 1 then
        inTurn [growChoice, part, grow 1 0]
      else
        let required := if atLeast == 0 then grow 1 0 else times part atLeast
        if atLeast == most then required
        else inTurn [required, grow 1 0, times (inTurn [growChoice, part]) (most - atLeast)]

/-- Add a pattern that has `before` options before it in the choice that it belongs to. -/
def growExpr (direction : Direction) : Expr → Nat → Growth
  | .empty, before => growOption (grow 1 0) before
  | .set chars, before => growOption (growSet direction chars) before
  | .look _, before => growOption (grow 1 0) before
  | .group index body, before =>
      let inner := growExpr direction body 0
      let part :=
        match direction with
        | .forwards => if index.isSome then inTurn [grow 1 0, inner, grow 1 0] else inner
        | .backwards => inner
      growOption part before
  | .seq first second, before =>
      let part :=
        match direction with
        | .forwards => inTurn [growExpr direction first 0, growExpr direction second 0]
        | .backwards => inTurn [growExpr direction second 0, growExpr direction first 0]
      growOption part before
  | .alt preferred other, before =>
      match if before == 0 then (Expr.alt preferred other).words? else none with
      | some words => growTrie direction words
      | none =>
          inTurn
            [growExpr direction preferred 0, joinOption before,
              growExpr direction other (before + 1)]
  | .iterate body atLeast atMost _, before =>
      let canBeEmpty := (body.leastLength?.getD 0) == 0
      growOption (growIterate (growExpr direction body 0) canBeEmpty atLeast atMost) before

/-- The states that let a match begin anywhere: a loop over all bytes, unless it must not. -/
def growEntry (anchored : Bool) : Growth :=
  if anchored then grow 1 0 else inTurn [growChoice, grow 2 arcSize]

/-- The weight of the automaton of a pattern in normal form, unless it passes the limit. -/
def ofExpr? (direction : Direction) (expr : Expr) : Option Weight :=
  match direction with
  | .forwards =>
      inTurn
        [growEntry (expr.beginsWith .textStart), growExpr .forwards (.group (some 0) expr) 0,
          grow 1 0]
        empty
  | .backwards =>
      inTurn
        [growEntry (expr.endsWith .textEnd), growExpr .backwards expr 0, grow 1 0]
        empty

end Weight

/-- The least count of words between which a choice needs no automata of its own. -/
def wordListSize : Nat := 3000

/-- Whether a pattern is a choice between very many words. -/
def isWordList (expr : Expr) : Bool :=
  expr.words?.any fun words => wordListSize ≤ words.length

/-- Whether a pattern stays within the limit. -/
def fits (expr : Expr) : Bool :=
  let normal := expr.normal
  isWordList normal ||
    ((Weight.ofExpr? .forwards normal).isSome && (Weight.ofExpr? .backwards normal).isSome)

end SourceUpgrade.Pattern
