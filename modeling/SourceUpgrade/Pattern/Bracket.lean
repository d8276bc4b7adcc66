import SourceUpgrade.Pattern.Escape

namespace SourceUpgrade.Pattern

/-!
# Bracketed classes

Sets of characters written out between brackets: single characters, ranges, escapes, named ASCII
classes and nested brackets, joined, intersected or subtracted. A class is read together with the
depth of its nesting, which a pattern text may not exceed.
-/

/-- A set that has been read, and how deep its written form is nested. -/
structure ReadSet where
  set : CharSet
  depth : Nat
deriving Repr, DecidableEq

/-- An operation between two sets. -/
inductive SetOperation where
  | intersection
  | difference
  | symmetricDifference
deriving Repr, DecidableEq

/-- The result of an operation between sets. -/
def SetOperation.apply
    (operation : SetOperation)
    (left right : CharSet) :
    CharSet :=
  match operation with
  | .intersection => left.inter right
  | .difference => left.diff right
  | .symmetricDifference => left.symmDiff right

/-- The operation that a text starts with, and the text after it. -/
def operation? : List Char → Option (SetOperation × List Char)
  | '&' :: '&' :: rest => some (.intersection, rest)
  | '-' :: '-' :: rest => some (.difference, rest)
  | '~' :: '~' :: rest => some (.symmetricDifference, rest)
  | _ => none

/-- The items joined so far and an operation that waits for its right side. -/
structure OpenSet where
  pending : Option (SetOperation × ReadSet)
  items : List ReadSet
deriving Repr, DecidableEq

namespace OpenSet

/-- Nothing read yet. -/
def start : OpenSet := ⟨none, []⟩

/-- Join one more item. -/
def add (opened : OpenSet) (item : ReadSet) : OpenSet :=
  { opened with items := item :: opened.items }

/-- The union of the items joined since the last operation. -/
def joined (opened : OpenSet) : ReadSet :=
  match opened.items with
  | [] => ⟨CharSet.empty, 0⟩
  | [only] => only
  | items =>
      ⟨CharSet.unions (items.map ReadSet.set),
        1 + (items.map ReadSet.depth).foldl max 0⟩

/-- Everything read so far as one set, the waiting operation carried out. -/
def resolved (flags : Flags) (opened : OpenSet) : ReadSet :=
  match opened.pending with
  | none => opened.joined
  | some (operation, left) =>
      let right := opened.joined
      ⟨operation.apply (foldSet flags left.set) (foldSet flags right.set),
        1 + max left.depth right.depth⟩

/-- Let an operation wait for the items to come. -/
def await (flags : Flags) (operation : SetOperation) (opened : OpenSet) : OpenSet :=
  ⟨some (operation, opened.resolved flags), []⟩

end OpenSet

/-- The ranges of a named ASCII class. -/
def asciiClass? (name : String) : Option (List (Nat × Nat)) :=
  match name with
  | "alnum" => some [(0x30, 0x39), (0x41, 0x5A), (0x61, 0x7A)]
  | "alpha" => some [(0x41, 0x5A), (0x61, 0x7A)]
  | "ascii" => some [(0, 0x7F)]
  | "blank" => some [(9, 9), (0x20, 0x20)]
  | "cntrl" => some [(0, 0x1F), (0x7F, 0x7F)]
  | "digit" => some [(0x30, 0x39)]
  | "graph" => some [(0x21, 0x7E)]
  | "lower" => some [(0x61, 0x7A)]
  | "print" => some [(0x20, 0x7E)]
  | "punct" => some [(0x21, 0x2F), (0x3A, 0x40), (0x5B, 0x60), (0x7B, 0x7E)]
  | "space" => some [(9, 13), (0x20, 0x20)]
  | "upper" => some [(0x41, 0x5A)]
  | "word" => some [(0x30, 0x39), (0x41, 0x5A), (0x5F, 0x5F), (0x61, 0x7A)]
  | "xdigit" => some [(0x30, 0x39), (0x41, 0x46), (0x61, 0x66)]
  | _ => none

/-- The named ASCII class at the front of a text, whether it is negated, and the text after it. -/
def asciiClassAt?
    (text : List Char) :
    Option (List (Nat × Nat) × Bool × List Char) :=
  match text with
  | '[' :: ':' :: inner =>
      let (negated, body) :=
        match inner with
        | '^' :: body => (true, body)
        | _ => (false, inner)
      let name := body.takeWhile (· != ':')
      match body.dropWhile (· != ':') with
      | ':' :: ']' :: rest =>
          (asciiClass? (String.ofList name)).map fun ranges => (ranges, negated, rest)
      | _ => none
  | _ => none

/-- Read one character, escape or class of a bracketed set. -/
def readSetAtom
    (flags : Flags)
    (text : List Char) :
    Except Fault (Atom × List Char) :=
  match text with
  | [] => .error .unclosedClass
  | '\\' :: rest => readEscape flags rest
  | c :: rest => .ok (.literal c false, rest)

/-- Whether a character may be an end of a range; bytes that are no characters may not. -/
def checkSetChar
    (flags : Flags)
    (c : Char) :
    Except Fault Char :=
  if flags.unicode || c.toNat < 0x80 then .ok c else .error .notText

/-- The character that an atom stands for, as the end of a range. -/
def rangeEnd
    (flags : Flags) :
    Atom → Except Fault Char
  | .literal c _ => checkSetChar flags c
  | _ => .error .badClass

/-- Read an item of a bracketed set: a range, or an atom that stands alone. -/
def readSetItem
    (flags : Flags)
    (text : List Char) :
    Except Fault (ReadSet × List Char) := do
  let (atom, afterAtom) ← readSetAtom flags text
  let rest := skipLayout flags.extended afterAtom
  if rest.isEmpty then
    throw .unclosedClass
  let following := peekLayout flags.extended rest
  if rest.head? != some '-' || following == some ']' || following == some '-' then
    match atom with
    | .literal c _ =>
        let c ← checkSetChar flags c
        return (⟨CharSet.singleton c, 0⟩, rest)
    | .set chars => return (⟨chars, 0⟩, rest)
    | .look _ => throw .badClass
  else
    let (_, opened) ← advance flags.extended .unclosedClass rest
    let (last, afterRange) ← readSetAtom flags opened
    let low ← rangeEnd flags atom
    let high ← rangeEnd flags last
    if high < low then
      throw .badClass
    return (⟨CharSet.interval low high, 0⟩, afterRange)

/-- Read hyphens at the front of a bracketed set; each stands for itself. Fuel bounds the steps. -/
def readHyphens
    (flags : Flags) :
    Nat → OpenSet → List Char → Except Fault (OpenSet × List Char)
  | 0, opened, text => .ok (opened, text)
  | fuel + 1, opened, text =>
      match text with
      | '-' :: _ => do
          let (_, rest) ← advance flags.extended .unclosedClass text
          readHyphens flags fuel (opened.add ⟨CharSet.singleton '-', 0⟩) rest
      | _ => .ok (opened, text)

/-- Read the opening bracket of a set and what has a meaning only there. -/
def readOpening
    (flags : Flags)
    (text : List Char) :
    Except Fault (Bool × OpenSet × List Char) := do
  let (first, inner) ← advance flags.extended .unclosedClass text
  let (negated, body) ←
    if first == '^' then
      let (_, body) ← advance flags.extended .unclosedClass inner
      pure (true, body)
    else
      pure (false, inner)
  let (opened, rest) ← readHyphens flags body.length .start body
  if opened.items.isEmpty && rest.head? == some ']' then
    let (_, rest) ← advance flags.extended .unclosedClass rest
    return (negated, opened.add ⟨CharSet.singleton ']', 0⟩, rest)
  else
    return (negated, opened, rest)

mutual

/-- Read a bracketed set from its opening bracket; fuel bounds the steps. -/
def readBracket
    (flags : Flags) :
    Nat → List Char → Except Fault (ReadSet × List Char)
  | 0, _ => .error .unclosedClass
  | fuel + 1, text => do
      let (negated, opened, rest) ← readOpening flags text
      readSetItems flags negated fuel opened rest

/-- Read the items of a bracketed set up to its closing bracket; fuel bounds the steps. -/
def readSetItems
    (flags : Flags)
    (negated : Bool) :
    Nat → OpenSet → List Char → Except Fault (ReadSet × List Char)
  | 0, _, _ => .error .unclosedClass
  | fuel + 1, opened, text =>
      let text := skipLayout flags.extended text
      match text with
      | [] => .error .unclosedClass
      | ']' :: rest => do
          let read := opened.resolved flags
          let set ← negateSet flags negated (foldSet flags read.set)
          return (⟨set, 1 + read.depth⟩, rest)
      | c :: _ =>
          match operation? text with
          | some (operation, rest) =>
              readSetItems flags negated fuel (opened.await flags operation) rest
          | none =>
              if c == '[' then
                match asciiClassAt? text with
                | some (ranges, opposite, rest) => do
                    let set ← negateSet flags opposite (foldSet flags (CharSet.ofRanges ranges))
                    readSetItems flags negated fuel (opened.add ⟨set, 0⟩) rest
                | none => do
                    let (inner, rest) ← readBracket flags fuel text
                    readSetItems flags negated fuel (opened.add inner) rest
              else do
                let (item, rest) ← readSetItem flags text
                readSetItems flags negated fuel (opened.add item) rest

end

end SourceUpgrade.Pattern
