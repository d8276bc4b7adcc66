import SourceUpgrade.Pattern.Encoding
import Std.Data.HashMap

namespace SourceUpgrade.Pattern

/-!
# The weight of automata

The size of a byte automaton in memory, as it grows state by state. Every state takes `stateSize`
bytes, every branch of a choice and every arc of a state with arcs of its own some more. Growing
stops at `sizeLimit`.

A set of characters beyond ASCII is an automaton over the bytes of their UTF-8 forms. It shares
states that take the same bytes to the same places, as far as a table of limited size remembers
them, so its weight depends on the numbers of its states.
-/

/-- The greatest size of an automaton, in bytes. -/
def sizeLimit : Nat := 10 * 0x100000

/-- The size of a state. -/
def stateSize : Nat := 32

/-- The size of a branch of a choice. -/
def branchSize : Nat := 4

/-- The size of an arc of a state that holds a list of arcs. -/
def arcSize : Nat := 8

/-- The places of the table of states for a set of characters that is read forwards. -/
def forwardSlots : Nat := 10000

/-- The places of the table of states for a set of characters that is read backwards. -/
def backwardSlots : Nat := 1000

/-- How large an automaton is: its count of states, and the bytes of its branches and arcs. -/
structure Weight where
  states : Nat
  extra : Nat
deriving Repr, DecidableEq

/-- The addition of some part to an automaton, unless this passes the limit. -/
abbrev Growth : Type := Weight → Option Weight

namespace Weight

/-- An automaton without states. -/
def empty : Weight := ⟨0, 0⟩

/-- The size in bytes. -/
def bytes (weight : Weight) : Nat :=
  weight.states * stateSize + weight.extra

/-- Add states, with the bytes of their branches and arcs. -/
def grow (states extra : Nat) : Growth := fun weight =>
  let grown : Weight := ⟨weight.states + states, weight.extra + extra⟩
  if grown.bytes ≤ sizeLimit then some grown else none

/-- Add one part after the other. -/
def inTurn : List Growth → Growth
  | [], weight => some weight
  | first :: rest, weight =>
      match first weight with
      | none => none
      | some grown => inTurn rest grown

/-- Add the same part a number of times. -/
def times (part : Growth) : Nat → Growth
  | 0, weight => some weight
  | count + 1, weight =>
      match part weight with
      | none => none
      | some grown => times part count grown

end Weight

/-! ## Sets of characters -/

/-- A number below `count` that spreads lists of numbers evenly. -/
def spread (count : Nat) (numbers : List Nat) : Nat :=
  let mixed := numbers.foldl
    (fun (state : UInt64) number => (state ^^^ UInt64.ofNat number) * 0x100000001B3)
    0xCBF29CE484222325
  mixed.toNat % count

/--
An automaton that grows, with a table of its states by their roles: what they take and where it
leads.

The table has `slots` places, each of which remembers the state put there last.
-/
structure Sharing where
  weight : Weight
  slots : Nat
  known : Std.HashMap Nat (List Nat × Nat)

namespace Sharing

/-- An automaton whose states are not yet in the table. -/
def start (slots : Nat) (weight : Weight) : Sharing :=
  ⟨weight, slots, {}⟩

/-- The number of a state with the given role, a new one if none is remembered. -/
def state
    (role : List Nat)
    (extra : Nat)
    (sharing : Sharing) :
    Option (Nat × Sharing) :=
  let slot := spread sharing.slots role
  match sharing.known[slot]?.filter fun entry => entry.1 == role with
  | some entry => some (entry.2, sharing)
  | none =>
      let number := sharing.weight.states
      (sharing.weight.grow 1 extra).map fun weight =>
        (number, ⟨weight, sharing.slots, sharing.known.insert slot (role, number)⟩)

end Sharing

/-- Group sequences by their first range: each first range with what follows it. -/
def groupByHead : List ByteRanges → List (ByteRange × List ByteRanges)
  | [] => []
  | [] :: rest => groupByHead rest
  | (head :: tail) :: rest =>
      match groupByHead rest with
      | (next, tails) :: groups =>
          if next == head then (head, tail :: tails) :: groups
          else (head, [tail]) :: (next, tails) :: groups
      | [] => [(head, [tail])]

/--
The state that takes the first byte of each sequence and goes on to the states for the next bytes.

A sequence ends at the state `last`; no sequence is longer than `depth`.
-/
def forwardState
    (last : Nat) :
    Nat → List ByteRanges → Sharing → Option (Nat × Sharing)
  | 0, _, sharing => some (last, sharing)
  | depth + 1, sequences, sharing => do
      let groups := groupByHead sequences
      let (role, sharing) ← groups.foldlM
        (fun (role, sharing) (head, tails) => do
          let (next, sharing) ←
            if tails.all List.isEmpty then pure (last, sharing)
            else forwardState last depth tails sharing
          return (role ++ [head.1, head.2, next], sharing))
        (([] : List Nat), sharing)
      sharing.state role (groups.length * arcSize)

/-- The state that takes the bytes of a sequence from the last one to the first, and then `last`. -/
def backwardState
    (last : Nat)
    (sequence : ByteRanges)
    (sharing : Sharing) :
    Option (Nat × Sharing) :=
  sequence.foldlM
    (fun (next, sharing) range => sharing.state [next, range.1, range.2] 0)
    (last, sharing)

/-- The way in which an automaton reads a text. -/
inductive Direction where
  | forwards
  | backwards
deriving Repr, DecidableEq

namespace Weight

/-- Add the automaton that takes one character of a set forwards. -/
def growForwards (sequences : List ByteRanges) : Growth := fun weight => do
  let grown ← weight.grow 1 0
  let (_, sharing) ← forwardState weight.states 4 sequences (Sharing.start forwardSlots grown)
  return sharing.weight

/-- Add the automaton that takes one character of a set backwards: a choice of its sequences. -/
def growBackwards (sequences : List ByteRanges) : Growth := fun weight => do
  let grown ← weight.grow 2 (sequences.length * branchSize)
  let last := weight.states + 1
  let sharing ← sequences.foldlM
    (fun sharing sequence => (backwardState last sequence sharing).map Prod.snd)
    (Sharing.start backwardSlots grown)
  return sharing.weight

/-- Add the automaton that takes one character of a set. -/
def growSet (direction : Direction) (set : CharSet) : Growth :=
  match set.only? with
  | some c => grow (utf8Length c.toNat) 0
  | none =>
      if set.isAscii then
        grow 2 (set.ranges.size * arcSize)
      else
        match direction with
        | .forwards => growForwards (byteSequences set)
        | .backwards => growBackwards (byteSequences set)

end Weight

/-! ## Choices between words -/

/-- Cut words in the order in which they are preferred at those that have ended. -/
def cutAtEnds : List (List Nat) → List (List (List Nat))
  | [] => [[]]
  | word :: rest =>
      match cutAtEnds rest with
      | [] => []
      | first :: cuts => if word.isEmpty then [] :: first :: cuts else (word :: first) :: cuts

/-- Leave all but one of the words that have ended before any other out. -/
def dropRepeatedEnds (words : List (List Nat)) : List (List Nat) :=
  let rest := words.dropWhile List.isEmpty
  if rest.length < words.length then [] :: rest else rest

/-- What is left of the words with each first byte, in the order in which the bytes come up. -/
def followers (words : List (List Nat)) : List (List (List Nat)) :=
  (words.filterMap List.head?).eraseDups.map fun byte =>
    words.filterMap fun word => if word.head? == some byte then some word.tail else none

/--
The states and bytes at one place of a trie, given what is left of the words that come there.

The words between two that have ended here share a state with an arc for each first byte; a single
arc needs no list. A choice leads to these states and to the end of the trie.
-/
def placeWeight (words : List (List Nat)) : Weight :=
  let cuts := cutAtEnds (dropRepeatedEnds words)
  let arcs := (cuts.map fun cut => (followers cut).length).filter (0 < ·)
  let listed := (arcs.filter (1 < ·)).foldl (· + ·) 0
  ⟨arcs.length + 1, listed * arcSize + (arcs.length + (cuts.length - 1)) * branchSize⟩

/-- The places of a trie that follow a place, as what is left of the words that come there. -/
def nextPlaces (words : List (List Nat)) : List (List (List Nat)) :=
  ((cutAtEnds (dropRepeatedEnds words)).flatMap followers).filter fun rest =>
    !rest.all List.isEmpty

/-- The weight of a trie from the given places on; no word is longer than `depth`. -/
def trieWeight : Nat → List (List (List Nat)) → Weight → Weight
  | 0, _, weight => weight
  | depth + 1, places, weight =>
      let grown := places.foldl
        (fun weight words =>
          let added := placeWeight words
          ⟨weight.states + added.states, weight.extra + added.extra⟩)
        weight
      trieWeight depth (places.flatMap nextPlaces) grown

/-- Add a choice between words: a trie and its end. -/
def Weight.growTrie (direction : Direction) (words : List (List Char)) : Growth :=
  let spelled := words.map fun word =>
    let bytes := word.flatMap fun c => utf8Bytes c.toNat
    match direction with
    | .forwards => bytes
    | .backwards => bytes.reverse
  let depth := (spelled.map List.length).foldl max 0
  let trie := trieWeight depth [spelled] Weight.empty
  Weight.grow (trie.states + 1) trie.extra

end SourceUpgrade.Pattern
