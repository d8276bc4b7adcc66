import SourceUpgrade.Pattern.Expr

namespace SourceUpgrade.Pattern

/-!
# Normal forms of patterns

A pattern in normal form has no groups that only hold their body together, no empty parts of a
sequence, no choice directly inside a choice and no choice between characters or between sets, which
is a set itself. If all options of a choice are sequences that begin alike, what they share stands in
front of the choice. Below, a pattern is mostly a list of options, each the list of its parts in
order.
-/

namespace Expr

/-- The parts of a sequence in order. -/
def parts : Expr → List Expr
  | .empty => []
  | .seq first second => first.parts ++ second.parts
  | other => [other]

/-- The options of a choice, each with its parts in order. -/
def options : Expr → List (List Expr)
  | .alt preferred other => preferred.options ++ other.options
  | other => [other.parts]

/-- The pattern with the given options, each with its parts in order. -/
def ofOptions (options : List (List Expr)) : Expr :=
  altAll (options.map seqAll)

/-- The parts of a pattern with the given options: a proper choice is one part. -/
def partsOfOptions (options : List (List Expr)) : List Expr :=
  match options with
  | [parts] => parts
  | _ => [ofOptions options]

/-- The set that a part takes one character of. -/
def set? : Expr → Option CharSet
  | .set chars => some chars
  | _ => none

/-- The character that a part stands for. -/
def char? : Expr → Option Char
  | .set chars => chars.only?
  | _ => none

end Expr

/-- A stretch of a sequence: as many characters in a row as there are, or another part. -/
inductive Stretch where
  | literal (text : List Char)
  | part (expr : Expr)
deriving Repr, DecidableEq

namespace Stretch

/-- The stretches of a sequence with the given parts. -/
def ofParts : List Expr → List Stretch
  | [] => []
  | first :: rest =>
      match first.char?, ofParts rest with
      | some c, .literal text :: more => .literal (c :: text) :: more
      | some c, more => .literal [c] :: more
      | none, more => .part first :: more

/-- The parts of a stretch. -/
def parts : Stretch → List Expr
  | .literal text => text.map fun c => .set (CharSet.singleton c)
  | .part expr => [expr]

/-- What two sequences begin with. -/
def commonStart : List Stretch → List Stretch → List Stretch
  | first :: rest, other :: others =>
      if first = other then first :: commonStart rest others else []
  | _, _ => []

/-- What all sequences begin with. -/
def sharedStart : List (List Stretch) → List Stretch
  | [] => []
  | first :: rest => rest.foldl commonStart first

end Stretch

namespace Expr

/-- The union of the sets of options that take one character each. -/
def unionOfSets? (options : List (List Expr)) : Option CharSet :=
  (options.mapM fun (parts : List Expr) =>
    match parts with
    | [only] => only.set?
    | _ => none).map CharSet.unions

/-- Whether every option is a character, or every option is a set that is none. -/
def isUniform (options : List (List Expr)) : Bool :=
  let single := fun (parts : List Expr) => (parts.head?.bind char?).isSome
  options.all single || options.all fun parts => !single parts

/-- A choice between characters, or between sets, as one set; the other choices as they are. -/
def mergeSets (options : List (List Expr)) : List (List Expr) :=
  if isUniform options then
    match unionOfSets? options with
    | some chars => [[.set chars]]
    | none => options
  else
    options

/-- Replace each option that is a choice by the options of this choice. -/
def flattenOptions (options : List (List Expr)) : List (List Expr) :=
  options.flatMap fun parts =>
    match parts with
    | [only] => only.options
    | _ => [parts]

/-- Put what several options of at least two stretches all begin with in front of the choice. -/
def liftStart (options : List (List Expr)) : List (List Expr) :=
  let stretches := options.map Stretch.ofParts
  let shared := Stretch.sharedStart stretches
  if shared.isEmpty || stretches.any fun option => option.length ≤ 1 then
    options
  else
    let rest := stretches.map fun option =>
      (option.drop shared.length).flatMap Stretch.parts
    [shared.flatMap Stretch.parts ++ partsOfOptions (mergeSets (flattenOptions rest))]

/-- The normal form of a choice whose options are in normal form. -/
def choose (options : List (List Expr)) : List (List Expr) :=
  match flattenOptions options with
  | [parts] => [parts]
  | options =>
      match mergeSets options with
      | [parts] => [parts]
      | options => liftStart options

/-- The options of the normal form of a pattern, before those of an outermost choice are merged. -/
def normalOptions : Expr → List (List Expr)
  | .empty => [[]]
  | .set chars => [[.set chars]]
  | .look condition => [[.look condition]]
  | .group none body => choose body.normalOptions
  | .group (some index) body =>
      [[.group (some index) (ofOptions (choose body.normalOptions))]]
  | .seq first second =>
      [partsOfOptions (choose first.normalOptions) ++
        partsOfOptions (choose second.normalOptions)]
  | .alt preferred other => choose preferred.normalOptions ++ other.normalOptions
  | .iterate body atLeast atMost greedy =>
      [[.iterate (ofOptions (choose body.normalOptions)) atLeast atMost greedy]]

/-- The normal form of a pattern. -/
def normal (expr : Expr) : Expr :=
  ofOptions (choose expr.normalOptions)

end Expr

end SourceUpgrade.Pattern
