import SourceUpgrade.Text.Blank

namespace SourceUpgrade.Passage

/-!
# Normal white space

Before a page is cut into passages its carriage returns are dropped, every line is trimmed and lines
without anything else are left out.
-/

/-- The lines of a text without carriage returns, each trimmed, blank ones left out. -/
def normalLines (text : List Char) : List (List Char) :=
  ((Text.splitAt '\n' (text.filter (· != '\r'))).map Text.trim).filter fun line => !line.isEmpty

/-- A text with its white space in normal form. -/
def normalize (text : List Char) : List Char :=
  ['\n'].intercalate (normalLines text)

/-- A string with its white space in normal form. -/
def normalizeString (text : String) : String :=
  String.ofList (normalize text.toList)

end SourceUpgrade.Passage
