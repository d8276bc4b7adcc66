import SourceUpgrade.Text.Digit

namespace SourceUpgrade

/-!
# Sets of characters

A character set is kept as ascending inclusive ranges of code points with gaps between them, so that
membership is a binary search. Every construction goes through `CharSet.ofRanges`, which sorts the
ranges, joins those that touch and leaves the surrogate block out: a set holds scalar values only.
-/

/-- A set of scalar values: ascending inclusive ranges that neither overlap nor touch. -/
structure CharSet where
  ranges : Array (Nat × Nat)
deriving Repr, DecidableEq

namespace CharSet

/-- The set without members. -/
def empty : CharSet := ⟨#[]⟩

instance : Inhabited CharSet := ⟨empty⟩

/-- Cut the surrogate block out of one range and drop what is left empty. -/
def withoutSurrogates
    (range : Nat × Nat) :
    List (Nat × Nat) :=
  let below := (range.1, min range.2 0xD7FF)
  let above := (max range.1 0xE000, min range.2 Text.lastCodePoint)
  (if below.1 ≤ below.2 then [below] else []) ++
    (if above.1 ≤ above.2 then [above] else [])

/-- Join neighbours of a list sorted by lower end that overlap or touch. -/
def joinTouching : List (Nat × Nat) → List (Nat × Nat)
  | [] => []
  | [range] => [range]
  | first :: second :: rest =>
      if second.1 ≤ first.2 + 1 then
        joinTouching ((first.1, max first.2 second.2) :: rest)
      else
        first :: joinTouching (second :: rest)
termination_by ranges => ranges.length

/-- The set of all scalar values that lie in some of the given ranges. -/
def ofRanges
    (ranges : List (Nat × Nat)) :
    CharSet :=
  let sorted := ranges.mergeSort fun left right => left.1 ≤ right.1
  ⟨((joinTouching sorted).flatMap withoutSurrogates).toArray⟩

/-- The set that holds one character. -/
def singleton (c : Char) : CharSet := ⟨#[(c.toNat, c.toNat)]⟩

/-- The characters from `first` to `last`, both included. -/
def interval (first last : Char) : CharSet :=
  ofRanges [(first.toNat, last.toNat)]

/-- The characters of a list. -/
def ofList (cs : List Char) : CharSet :=
  ofRanges (cs.map fun c => (c.toNat, c.toNat))

/-- Binary search for a code point among the ranges with index from `low` up to `high`. -/
def search
    (ranges : Array (Nat × Nat))
    (code low high : Nat) :
    Bool :=
  if low < high then
    let middle := (low + high) / 2
    match ranges[middle]? with
    | none => false
    | some range =>
        if code < range.1 then
          search ranges code low middle
        else if range.2 < code then
          search ranges code (middle + 1) high
        else
          true
  else
    false
termination_by high - low

/-- Whether a code point belongs to the set. -/
def containsCode (set : CharSet) (code : Nat) : Bool :=
  search set.ranges code 0 set.ranges.size

/-- Whether a character belongs to the set. -/
def contains (set : CharSet) (c : Char) : Bool :=
  set.containsCode c.toNat

/-- Whether the set has no members. -/
def isEmpty (set : CharSet) : Bool :=
  set.ranges.isEmpty

/-- The gaps before, between and after ascending ranges, from code point `next` on. -/
def gaps : Nat → List (Nat × Nat) → List (Nat × Nat)
  | next, [] => if next ≤ Text.lastCodePoint then [(next, Text.lastCodePoint)] else []
  | next, range :: rest =>
      (if next < range.1 then [(next, range.1 - 1)] else []) ++
        gaps (range.2 + 1) rest

/-- All scalar values outside the set. -/
def complement (set : CharSet) : CharSet :=
  ⟨((gaps 0 set.ranges.toList).flatMap withoutSurrogates).toArray⟩

/-- The members of either set. -/
def union (left right : CharSet) : CharSet :=
  ofRanges (left.ranges.toList ++ right.ranges.toList)

/-- The common members of two sets. -/
def inter (left right : CharSet) : CharSet :=
  (left.complement.union right.complement).complement

/-- The members of the first set that the second lacks. -/
def diff (left right : CharSet) : CharSet :=
  left.inter right.complement

/-- The members of exactly one of two sets. -/
def symmDiff (left right : CharSet) : CharSet :=
  (left.diff right).union (right.diff left)

/-- The members of some set of a list. -/
def unions (sets : List CharSet) : CharSet :=
  ofRanges (sets.flatMap fun set => set.ranges.toList)

/-- Every scalar value. -/
def all : CharSet := empty.complement

/-- The scalar values below 128. -/
def ascii : CharSet := ofRanges [(0, 0x7F)]

/-- The only member of a set that has exactly one. -/
def only? (set : CharSet) : Option Char :=
  match set.ranges.toList with
  | [(low, high)] => if low == high then some (Char.ofNat low) else none
  | _ => none

/-- Whether all members are below 128. -/
def isAscii (set : CharSet) : Bool :=
  set.ranges.all fun range => range.2 < 0x80

/-! ## Written form -/

/-- Read `41-5A` as a range and `AA` as a range of one code point. -/
def readRange (word : List Char) : Nat × Nat :=
  let first := word.takeWhile (· != '-')
  let last := (word.dropWhile (· != '-')).drop 1
  (Text.valueIn 16 first, Text.valueIn 16 (if last.isEmpty then first else last))

/-- Split a text at blanks and line ends, leaving empty words out. -/
def words (text : String) : List (List Char) :=
  let step := fun (word : List Char × List (List Char)) (c : Char) =>
    if c == ' ' || c == '\n' then
      (([] : List Char), if word.1.isEmpty then word.2 else word.1.reverse :: word.2)
    else
      (c :: word.1, word.2)
  let last := (text.toList ++ [' ']).foldl step (([] : List Char), ([] : List (List Char)))
  last.2.reverse

/-- The set written as hexadecimal ranges with blanks between them. -/
def ofTable (table : String) : CharSet :=
  ofRanges ((words table).map readRange)

end CharSet

end SourceUpgrade
