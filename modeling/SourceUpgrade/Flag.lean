import SourceUpgrade.Text.Blank

namespace SourceUpgrade

/-!
# Flags as texts

A flag that is given as a text is on for a few words, whatever their case and the blanks around
them, and off for anything else.
-/

/-- The words that turn a flag on. -/
def trueWords : List String :=
  ["1", "true", "yes", "y", "on"]

/-- Whether a text turns a flag on. -/
def readFlag (text : String) : Bool :=
  trueWords.contains (String.ofList ((Text.trim text.toList).map Char.toLower))

end SourceUpgrade
