namespace SourceUpgrade

/-!
# Causes in messages

A message that reports a failed reader names what could not be read. Where a detailed account of
the failure would follow, every message has the same short stand-in.
-/

/-- What stands in a message for the detailed account of a failure. -/
def causeMark : String := "<cause>"

end SourceUpgrade
