import SourceUpgrade.Pattern.Reader
import SourceUpgrade.Pattern.Limit

namespace SourceUpgrade.Pattern

/-!
# Compiled patterns

A program is an array of instructions that name their successors by address. A pattern is compiled
for a given continuation: the address at which its code goes on after a match. Loops reserve the
address of their choice first and fill it in when their body has been placed.
-/

/-- One instruction; a choice names the preferred successor first. -/
inductive Instruction where
  | take (chars : CharSet) (next : Nat)
  | demand (condition : Look) (next : Nat)
  | choose (preferred other : Nat)
  | save (slot next : Nat)
  | accept
deriving Repr, DecidableEq, Inhabited

/-- Code that has been placed so far. -/
abbrev Code : Type := Array Instruction

/-- Place an instruction and return its address. -/
def place (instruction : Instruction) (code : Code) : Nat × Code :=
  (code.size, code.push instruction)

/-- A choice that prefers going into a body, or leaving it. -/
def choice (greedy : Bool) (into out : Nat) : Instruction :=
  if greedy then .choose into out else .choose out into

/-- Place a body a number of times in a row, each copy going on at the next. -/
def placeCopies
    (body : Nat → Code → Nat × Code) :
    Nat → Nat → Code → Nat × Code
  | 0, next, code => (next, code)
  | count + 1, next, code =>
      let placed := placeCopies body count next code
      body placed.1 placed.2

/-- Place a body a number of times, each copy optional and tried only after the one before it. -/
def placeOptionals
    (body : Nat → Code → Nat × Code)
    (greedy : Bool)
    (out : Nat) :
    Nat → Code → Nat × Code
  | 0, code => (out, code)
  | count + 1, code =>
      let later := placeOptionals body greedy out count code
      let entry := body later.1 later.2
      place (choice greedy entry.1 out) entry.2

/-- Place a loop that is entered at its body and comes back to a choice after each round. -/
def placeLoop
    (body : Nat → Code → Nat × Code)
    (greedy : Bool)
    (next : Nat)
    (code : Code) :
    (Nat × Nat) × Code :=
  let back := code.size
  let entry := body back (code.push (.choose next next))
  ((entry.1, back), entry.2.set! back (choice greedy entry.1 next))

/--
Place the code of a pattern that goes on at `next`, and return the address where it begins.

A loop whose body may take nothing is entered through a choice of its own, so that an empty round
never changes which alternatives are preferred.
-/
def compile : Expr → Nat → Code → Nat × Code
  | .empty, next, code => (next, code)
  | .set chars, next, code => place (.take chars next) code
  | .look condition, next, code => place (.demand condition next) code
  | .group none body, next, code => compile body next code
  | .group (some index) body, next, code =>
      let close := place (.save (2 * index + 1) next) code
      let inner := compile body close.1 close.2
      place (.save (2 * index) inner.1) inner.2
  | .seq first second, next, code =>
      let later := compile second next code
      compile first later.1 later.2
  | .alt preferred other, next, code =>
      let first := compile preferred next code
      let second := compile other next first.2
      place (.choose first.1 second.1) second.2
  | .iterate body atLeast atMost greedy, next, code =>
      match atMost with
      | some most =>
          let optional := placeOptionals (compile body) greedy next (most - atLeast) code
          placeCopies (compile body) atLeast optional.1 optional.2
      | none =>
          let loop := placeLoop (compile body) greedy next code
          if atLeast == 0 then
            if body.minLength == 0 then
              place (choice greedy loop.1.1 next) loop.2
            else
              (loop.1.2, loop.2)
          else
            placeCopies (compile body) (atLeast - 1) loop.1.1 loop.2

/-- A compiled pattern: its code, where it begins, and the groups it remembers. -/
structure Program where
  code : Code
  entry : Nat
  captures : Nat
  names : List (String × Nat)
deriving Repr, DecidableEq

/-- The program of a pattern that has been read. -/
def ReadPattern.program (pattern : ReadPattern) : Program :=
  let start := place .accept #[]
  let placed := compile (.group (some 0) pattern.expr) start.1 start.2
  ⟨placed.2, placed.1, pattern.captures, pattern.names⟩

/-- Read and compile a pattern text, lines having ends of their own or not. -/
def Program.ofText (multiLine : Bool) (text : String) : Except Fault Program := do
  let pattern ← read multiLine text
  if fits pattern.expr then
    return pattern.program
  else
    throw .tooLarge

end SourceUpgrade.Pattern
