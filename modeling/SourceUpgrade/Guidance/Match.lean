import SourceUpgrade.Cause
import SourceUpgrade.Floating.Rounding
import SourceUpgrade.Text.Blank

namespace SourceUpgrade

/-!
# Retrieved guidance

The answers of a guidance source: snippets with a score and where they come from. A source is asked
with a text, a greatest number of answers and, where the package tells one, a framework.
-/

/-- A score, by the bits of its 32-bit floating-point form. -/
structure Score where
  bits : Nat
deriving Repr, DecidableEq

namespace Score

/-- The score zero. -/
def zero : Score := ⟨0⟩

/-- The score nearest to an integer. -/
def ofInt (value : Int) : Score :=
  ⟨Floating.singleBitsOfInt value⟩

/-- The bit that negative numbers have. -/
def signBit : Nat := 0x80000000

/-- The place of a score in the total order of floating-point numbers. -/
def rank (score : Score) : Int :=
  if score.bits < signBit then score.bits else -((score.bits - signBit : Nat) : Int) - 1

end Score

/-- An answer of a guidance source. -/
structure GuidanceMatch where
  score : Score
  title : String
  url : String
  framework : String
  chunkIndex : Int
  snippet : String
deriving Repr, DecidableEq

/-- How many characters of a snippet are kept. -/
def snippetLimit : Nat := 400

/-- The first characters of a long text with three dots after them; a short text as it is. -/
def truncateSnippet (text : String) : String :=
  let cs := text.toList
  if snippetLimit < cs.length then
    String.ofList (cs.take snippetLimit ++ ['.', '.', '.'])
  else
    text

namespace GuidanceMatch

/-- An answer about which nothing is known. -/
def blank : GuidanceMatch where
  score := .zero
  title := ""
  url := ""
  framework := ""
  chunkIndex := -1
  snippet := ""

/-- An answer with an address and a text. -/
def ofSnippet (url snippet : String) : GuidanceMatch :=
  { blank with url := url, snippet := truncateSnippet snippet }

/-- The answer with its snippet cut to the limit. -/
def truncated (found : GuidanceMatch) : GuidanceMatch :=
  { found with snippet := truncateSnippet found.snippet }

end GuidanceMatch

/-- A question to a guidance source. -/
structure GuidanceQuery where
  text : String
  limit : Nat
  framework : Option String
deriving Repr, DecidableEq

/-- What can be asked for guidance; no answer means that the question failed. -/
abbrev GuidanceSource : Type := GuidanceQuery → Option (List GuidanceMatch)

/-- The answers of a source; a question that fails has none. -/
def GuidanceSource.ask (source : GuidanceSource) (query : GuidanceQuery) : List GuidanceMatch :=
  (source query).getD []

/-- A source that fails every question. -/
def GuidanceSource.failing : GuidanceSource := fun _ => none

/-- Whether an answer comes at or before another by score. -/
def GuidanceMatch.notBelow (left right : GuidanceMatch) : Bool :=
  right.score.rank ≤ left.score.rank

/-- The best answers of a collection, those with one score in the order of the collection. -/
def bestMatches (answers : List GuidanceMatch) (query : GuidanceQuery) : List GuidanceMatch :=
  let eligible := answers.filter fun found =>
    query.framework.all fun framework => found.framework == framework
  (eligible.mergeSort GuidanceMatch.notBelow).take query.limit

/-- A source that answers from a collection, whatever the text of the question. -/
def GuidanceSource.ofMatches (answers : List GuidanceMatch) : GuidanceSource :=
  let stored := answers.map GuidanceMatch.truncated
  fun query => some (bestMatches stored query)

/-- The framework that a package belongs to. -/
def frameworkHint (package : String) : Option String :=
  if Text.beginsWith package "next" then some "nextjs"
  else if Text.beginsWith package "react" then some "react"
  else none

/-- The text that a source is asked about an upgrade. -/
def upgradeQuestion (package current target : String) : String :=
  package ++ " migration " ++ (if current.isEmpty then "current" else current) ++ " to " ++ target ++
    " quick summary key API renames"

end SourceUpgrade
