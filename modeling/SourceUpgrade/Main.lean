import SourceUpgrade.CommandLine.Run

/-!
# The program

Reads the files that the arguments name, takes the step that `SourceUpgrade.CommandLine` decides on
and prints the outcome.
-/

open SourceUpgrade.CommandLine

/-- The text of a file, if it can be read. -/
def readPath (path : String) : IO (Option String) := do
  try
    return some (← IO.FS.readFile path)
  catch _ =>
    return none

/-- Whether a text could be written to a file. -/
def writePath (path text : String) : IO Bool := do
  try
    IO.FS.writeFile path text
    return true
  catch _ =>
    return false

/-- The paths that a request may read. -/
def requestPaths : Request → List String
  | .invoke invocation => invocation.paths
  | _ => []

/-- Take a step with the files there are. -/
def takeStep : Step → IO Outcome
  | .finish outcome => return outcome
  | .write path text next => return next (← writePath path text)

/-- Print an outcome; arguments that make no sense are answered with the usage. -/
def report (outcome : Outcome) : IO UInt32 := do
  IO.print outcome.output
  match outcome.errorText with
  | some text => IO.eprintln text
  | none => if outcome = .misuse then IO.eprint usageText
  return outcome.code.toUInt32

/-- Run the program. -/
def main (arguments : List String) : IO UInt32 := do
  let request := readArguments arguments
  let texts ← (requestPaths request).mapM fun path => return (path, ← readPath path)
  let files := fun path => (texts.lookup path).bind id
  report (← takeStep (request.step files))
