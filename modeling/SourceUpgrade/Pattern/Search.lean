import SourceUpgrade.Pattern.Program

namespace SourceUpgrade.Pattern

/-!
# Searching a text

A program runs on all positions of a text at once: a list of threads, most preferred first, is
advanced by one character at a time, and no two threads stand at the same instruction. So the work
is bounded by the product of the two sizes, and the match found is the leftmost one, with the
alternatives preferred in the order in which the pattern lists them.
-/

/-- Whether a character counts as part of a word. -/
def WordClass.contains (words : WordClass) (c : Char) : Bool :=
  match words with
  | .unicode =>
      if c.toNat < 0x80 then asciiWordSet.contains c else Unicode.wordSet.contains c
  | .ascii => asciiWordSet.contains c

/-- Whether a condition holds between two neighbouring characters, if there are such. -/
def Look.holds (before after : Option Char) : Look → Bool
  | .textStart => before.isNone
  | .textEnd => after.isNone
  | .lineStart => before.isNone || before == some '\n'
  | .lineEnd => after.isNone || after == some '\n'
  | .anyBreakStart =>
      before.isNone || before == some '\n' || (before == some '\r' && after != some '\n')
  | .anyBreakEnd =>
      after.isNone || after == some '\r' || (after == some '\n' && before != some '\r')
  | .boundary words => before.any words.contains != after.any words.contains
  | .noBoundary words => before.any words.contains == after.any words.contains
  | .wordStart words => !before.any words.contains && after.any words.contains
  | .wordEnd words => before.any words.contains && !after.any words.contains
  | .wordStartHalf words => !before.any words.contains
  | .wordEndHalf words => !after.any words.contains

/-- The positions remembered so far: begin and end of each group, by slot. -/
abbrev Slots : Type := Array (Option Nat)

/-- A place in the program together with what has been remembered on the way there. -/
structure Thread where
  address : Nat
  slots : Slots
deriving Repr, DecidableEq

/-- Threads at one position, most preferred first, with a mark for each instruction passed. -/
structure Frontier where
  threads : Array Thread
  passed : Array Bool
deriving Repr

namespace Frontier

/-- No threads. -/
def start (size : Nat) : Frontier :=
  ⟨#[], Array.replicate size false⟩

/--
Follow the instructions that take no character from the threads on a stack, the top one first.

Threads that wait for a character or have matched join the frontier; an instruction that a more
preferred thread has passed is not followed again. Every step either drops a thread from the stack
or passes a new instruction, so fuel of twice the size of the code is enough.
-/
def follow
    (code : Code)
    (position : Nat)
    (before after : Option Char) :
    Nat → List Thread → Frontier → Frontier
  | 0, _, frontier => frontier
  | _ + 1, [], frontier => frontier
  | fuel + 1, thread :: stack, frontier =>
      if frontier.passed.getD thread.address true then
        follow code position before after fuel stack frontier
      else
        let threads := frontier.threads
        let passed := frontier.passed.set! thread.address true
        match code[thread.address]? with
        | none => follow code position before after fuel stack ⟨threads, passed⟩
        | some (.take _ _) => follow code position before after fuel stack ⟨threads.push thread, passed⟩
        | some .accept => follow code position before after fuel stack ⟨threads.push thread, passed⟩
        | some (.demand condition next) =>
            if condition.holds before after then
              follow code position before after fuel
                ({ thread with address := next } :: stack) ⟨threads, passed⟩
            else
              follow code position before after fuel stack ⟨threads, passed⟩
        | some (.choose preferred other) =>
            follow code position before after fuel
              ({ thread with address := preferred } :: { thread with address := other } :: stack)
              ⟨threads, passed⟩
        | some (.save slot next) =>
            follow code position before after fuel
              (⟨next, thread.slots.set! slot (some position)⟩ :: stack) ⟨threads, passed⟩

end Frontier

namespace Program

/-- Enter a thread, and all that follows from it without taking a character, into a frontier. -/
def enter
    (program : Program)
    (position : Nat)
    (before after : Option Char)
    (thread : Thread)
    (frontier : Frontier) :
    Frontier :=
  frontier.follow program.code position before after (2 * program.code.size + 2) [thread]

/--
Advance the threads of a frontier over one character, or none at the end of the text.

The first thread that has matched ends the round: the threads after it are less preferred. The
result is the next frontier and what that thread remembers.
-/
def advance
    (program : Program)
    (position : Nat)
    (c after : Option Char) :
    List Thread → Frontier → Frontier × Option Slots
  | [], next => (next, none)
  | thread :: rest, next =>
      match program.code[thread.address]? with
      | some .accept => (next, some thread.slots)
      | some (.take chars address) =>
          if c.any chars.contains then
            advance program position c after rest
              (program.enter (position + 1) c after { thread with address := address } next)
          else
            advance program position c after rest next
      | _ => advance program position c after rest next

/-- The slots of a thread that remembers nothing. -/
def freshSlots (program : Program) : Slots :=
  Array.replicate (2 * (program.captures + 1)) none

/--
Search from a position with the threads that are under way and the best match so far.

A new thread starts at every position until something has matched. The search ends with the text,
or when a match has been found and no thread is left that could improve on it.
-/
def searchFrom
    (program : Program)
    (before : Option Char)
    (position : Nat)
    (frontier : Frontier)
    (best : Option Slots) :
    List Char → Option Slots
  | [] =>
      let frontier :=
        if best.isNone then
          program.enter position before none ⟨program.entry, program.freshSlots⟩ frontier
        else
          frontier
      let round :=
        program.advance position none none frontier.threads.toList (.start program.code.size)
      round.2 <|> best
  | c :: rest =>
      if best.isSome && frontier.threads.isEmpty then
        best
      else
        let frontier :=
          if best.isNone then
            program.enter position before (some c) ⟨program.entry, program.freshSlots⟩ frontier
          else
            frontier
        let round :=
          program.advance position (some c) rest.head? frontier.threads.toList
            (.start program.code.size)
        searchFrom program (some c) (position + 1) round.1 (round.2 <|> best) rest

/-- The leftmost match in a text that follows a given character, which counts as its context. -/
def search
    (program : Program)
    (before : Option Char)
    (position : Nat)
    (text : List Char) :
    Option Slots :=
  program.searchFrom before position (.start program.code.size) none text

/-- Whether a text holds a match. -/
def isMatch (program : Program) (text : String) : Bool :=
  (program.search none 0 text.toList).isSome

end Program

/-- A match: its begin and end and what its groups took, as positions in the text. -/
structure Match where
  start : Nat
  stop : Nat
  slots : Slots
deriving Repr, DecidableEq

/-- The match that a program has remembered. -/
def Match.ofSlots (slots : Slots) : Match :=
  ⟨((slots[0]?).join).getD 0, ((slots[1]?).join).getD 0, slots⟩

/-- Where a group took part in a match. -/
def Match.group? (found : Match) (index : Nat) : Option (Nat × Nat) :=
  match (found.slots[2 * index]?).join, (found.slots[2 * index + 1]?).join with
  | some start, some stop => some (start, stop)
  | _, _ => none

/-- A place in a text: what stands right before it, its position and the text from there on. -/
structure Place where
  before : Option Char
  position : Nat
  rest : List Char
deriving Repr, DecidableEq

namespace Place

/-- The begin of a text. -/
def start (text : List Char) : Place :=
  ⟨none, 0, text⟩

/-- The place a number of characters further on, if the text goes as far. -/
def forward? : Nat → Place → Option Place
  | 0, place => some place
  | count + 1, place =>
      match place.rest with
      | [] => none
      | c :: rest => forward? count ⟨some c, place.position + 1, rest⟩

end Place

namespace Program

/-- The leftmost match at or after a place. -/
def matchAt?
    (program : Program)
    (place : Place) :
    Option Match :=
  (program.search place.before place.position place.rest).map Match.ofSlots

/--
The matches of a text from left to right that do not overlap, from a place on.

An empty match right at the end of the one before it is passed over: the search goes on one
character further. Each match moves the place or is the last one there, so fuel of the length of
the text is enough.
-/
def matchesFrom
    (program : Program) :
    Nat → Place → Option Nat → List Match
  | 0, _, _ => []
  | fuel + 1, place, lastStop =>
      let found? :=
        match program.matchAt? place with
        | none => none
        | some found =>
            if found.start = found.stop && lastStop == some found.stop then
              (place.forward? 1).bind program.matchAt?
            else
              some found
      match found? with
      | none => []
      | some found =>
          match place.forward? (found.stop - place.position) with
          | none => [found]
          | some next => found :: matchesFrom program fuel next (some found.stop)

/-- All matches of a text from left to right that do not overlap. -/
def findAll (program : Program) (text : List Char) : List Match :=
  program.matchesFrom (2 * text.length + 2) (.start text) none

end Program

end SourceUpgrade.Pattern
